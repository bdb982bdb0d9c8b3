import IntegerCalculator.Proofs.Bracketing
import IntegerCalculator.Proofs.Grammar

/-!
# The sentences of a grammar of tiers

Whatever the tiers, the sentences of a grammar are the tokens of formulas. Only
the trees differ: under a grammar that ranks all operators every formula has
one tree, `Formula.tree`, and what the grammar derives from the tokens of the
formula is this tree and nothing else (`derives_iff`). No other formula has the
same tokens (`Formula.tokens_injective`), so a sentence has one tree.

Formulas are nested in each other, and `Operand.induction` is the induction
along the nesting: a property of operands holds of a group as soon as it holds
of all operands inside.
-/

namespace IntegerCalculator

mutual

/-- **Induction along the nesting of groups.** -/
theorem Operand.induction {motive : Operand → Prop}
    (number : ∀ digits hd, motive (.number digits hd))
    (group : ∀ f : Formula, (∀ x ∈ f.operands, motive x) → motive (.group f))
    (x : Operand) : motive x := by
  match x with
  | .number digits hd => exact number digits hd
  | .group ⟨y, rest⟩ =>
    refine group ⟨y, rest⟩ fun z hz => ?_
    rcases List.mem_cons.mp hz with hz | hz
    · rw [hz]
      exact Operand.induction number group y
    · obtain ⟨p, hp, rfl⟩ := List.mem_map.mp hz
      exact Operand.induction_links number group rest p hp

/-- The same for operators with the operand behind each. -/
theorem Operand.induction_links {motive : Operand → Prop}
    (number : ∀ digits hd, motive (.number digits hd))
    (group : ∀ f : Formula, (∀ x ∈ f.operands, motive x) → motive (.group f))
    (rest : List (Operator × Operand)) : ∀ p ∈ rest, motive p.2 := by
  match rest with
  | [] => simp
  | (o, x) :: rest =>
    intro p hp
    rcases List.mem_cons.mp hp with rfl | hp
    · exact Operand.induction number group x
    · exact Operand.induction_links number group rest p hp

end

/-! ## The trees of a formula -/

mutual

/-- **The tree of an operand** in a grammar of tiers. -/
def Operand.tree (grammar : List (List Operator)) : Operand → Tree
  | .number digits _ => .leaf (Nat.ofDigitChars 10 digits 0)
  | .group ⟨x, rest⟩ => Chain.tree grammar ⟨x.tree grammar, linkTrees grammar rest⟩

/-- The trees of operands behind operators. -/
def linkTrees (grammar : List (List Operator)) :
    List (Operator × Operand) → List (Operator × Tree)
  | [] => []
  | (o, x) :: rest => (o, x.tree grammar) :: linkTrees grammar rest

end

/-- **The tree of a formula** in a grammar of tiers. -/
def Formula.tree (grammar : List (List Operator)) (f : Formula) : Tree :=
  Chain.tree grammar (f.map (Operand.tree grammar))

theorem linkTrees_eq_map (grammar : List (List Operator)) (rest : List (Operator × Operand)) :
    linkTrees grammar rest = rest.map fun p => (p.1, p.2.tree grammar) := by
  induction rest with
  | nil => rfl
  | cons p rest ih =>
    rw [linkTrees, ih]
    rfl

@[simp] theorem Operand.tree_group (grammar : List (List Operator)) (f : Formula) :
    (Operand.group f).tree grammar = f.tree grammar := by
  obtain ⟨x, rest⟩ := f
  rw [Operand.tree, linkTrees_eq_map]
  rfl

/-! ## The tokens of a formula -/

theorem linkTokens_append (l m : List (Operator × Operand)) :
    linkTokens (l ++ m) = linkTokens l ++ linkTokens m := by
  induction l with
  | nil => rfl
  | cons p l ih =>
    rw [List.cons_append, linkTokens, linkTokens, ih]
    simp

namespace Formula

@[simp] theorem tokens_single (x : Operand) : tokens (.single x) = x.tokens := by
  simp [tokens, Chain.single, linkTokens]

@[simp] theorem tokens_join (f : Formula) (o : Operator) (g : Formula) :
    tokens (f.join o g) = tokens f ++ .operator o :: tokens g := by
  simp [tokens, Chain.join, linkTokens_append, linkTokens]

end Formula

/-- What follows a chain does not begin with an operator. -/
def EndsChain (ts : List Token) : Prop := ∀ o us, ts ≠ .operator o :: us

theorem endsChain_nil : EndsChain [] := nofun

theorem endsChain_closeParen (ts : List Token) : EndsChain (.closeParen :: ts) := nofun

/-- **The tokens of an operand tell the operand**, and where they end. -/
def Operand.Told (x : Operand) : Prop :=
  ∀ y us vs, x.tokens ++ us = Operand.tokens y ++ vs → x = y ∧ us = vs

/-- The tokens of a chain tell the chain if those of its operands do. -/
theorem linkTokens_append_injective {l m : List (Operator × Operand)}
    (hl : ∀ p ∈ l, p.2.Told) {us vs : List Token} (hus : EndsChain us) (hvs : EndsChain vs)
    (h : linkTokens l ++ us = linkTokens m ++ vs) : l = m ∧ us = vs := by
  induction l generalizing m with
  | nil =>
    cases m with
    | nil => exact ⟨rfl, h⟩
    | cons q m => exact absurd h (hus _ _)
  | cons p l ih =>
    cases m with
    | nil => exact absurd h.symm (hvs _ _)
    | cons q m =>
      obtain ⟨o, x⟩ := p
      obtain ⟨o', y⟩ := q
      simp only [linkTokens, List.cons_append, List.append_assoc, List.cons.injEq,
        Token.operator.injEq] at h
      obtain ⟨rfl, hx⟩ := h
      obtain ⟨rfl, hrest⟩ := hl (o, x) List.mem_cons_self _ _ _ hx
      obtain ⟨rfl, rfl⟩ := ih (fun p hp => hl p (List.mem_cons_of_mem _ hp)) hrest
      exact ⟨rfl, rfl⟩

namespace Formula

theorem tokens_append_injective {f g : Formula} (hf : ∀ x ∈ f.operands, x.Told)
    {us vs : List Token} (hus : EndsChain us) (hvs : EndsChain vs)
    (h : f.tokens ++ us = g.tokens ++ vs) : f = g ∧ us = vs := by
  obtain ⟨x, l⟩ := f
  obtain ⟨y, m⟩ := g
  rw [tokens, tokens, List.append_assoc, List.append_assoc] at h
  obtain ⟨hx, hlinks⟩ := hf x List.mem_cons_self _ _ _ h
  obtain ⟨hl, hends⟩ := linkTokens_append_injective
    (fun p hp => hf p.2 (Chain.mem_operands_of_mem_rest hp)) hus hvs hlinks
  obtain rfl : x = y := hx
  obtain rfl : l = m := hl
  exact ⟨rfl, hends⟩

end Formula

theorem Operand.told (x : Operand) : x.Told := by
  induction x using Operand.induction with
  | number digits hd =>
    intro y us vs h
    cases y with
    | number digits' hd' =>
      obtain ⟨hdigits, htail⟩ := List.cons.inj h
      obtain rfl := Token.number.inj hdigits
      exact ⟨rfl, htail⟩
    | group g => cases g; cases h
  | group f ih =>
    intro y us vs h
    cases y with
    | number digits' hd' => cases f; cases h
    | group g =>
      rw [Operand.tokens_group, Operand.tokens_group] at h
      simp only [List.cons_append, List.append_assoc, List.nil_append, List.cons.injEq,
        true_and] at h
      obtain ⟨rfl, htail⟩ := Formula.tokens_append_injective ih (endsChain_closeParen us)
        (endsChain_closeParen vs) h
      exact ⟨rfl, (List.cons.inj htail).2⟩

/-- **A formula is told by its tokens.** -/
theorem Formula.tokens_injective {f g : Formula} (h : f.tokens = g.tokens) : f = g :=
  (Formula.tokens_append_injective (fun x _ => x.told) endsChain_nil endsChain_nil
    (congrArg (· ++ []) h)).1

/-! ## What a grammar derives -/

section

variable {grammar tiers : List (List Operator)} {ts : List Token} {t : Tree}

/-- A sentence of the grammar is the tokens of a formula, and the operands of
the formula have the derived tree under the same tiers. -/
theorem Derives.exists_formula (hg : Ranks grammar) (h : Derives grammar tiers ts t) :
    ∃ f : Formula, f.tokens = ts ∧ Tiered tiers (f.map (Operand.tree grammar)) t := by
  induction h with
  | @number digits hne hdigits =>
    exact ⟨.single (.number digits (Decimal.isNumeral_iff.mpr ⟨hne, hdigits⟩)),
      Formula.tokens_single _, .operand _⟩
  | group h ih =>
    obtain ⟨f, rfl, hf⟩ := ih
    refine ⟨.single (.group f), ?_, ?_⟩
    · rw [Formula.tokens_single, Operand.tokens_group]
    · obtain rfl := (tiered_iff_tree_eq hg).mp hf
      rw [Chain.map_single, Operand.tree_group]
      exact .operand _
  | next ops h ih =>
    obtain ⟨f, hts, hf⟩ := ih
    exact ⟨f, hts, .next ops hf⟩
  | @join _ _ _ _ _ _ o ho hl hr ihl ihr =>
    obtain ⟨f, rfl, hf⟩ := ihl
    obtain ⟨g, rfl, hg⟩ := ihr
    refine ⟨f.join o g, Formula.tokens_join f o g, ?_⟩
    rw [Chain.map_join]
    exact .join ho hf hg

/-- The tokens of a formula derive every tree of the formula, if those of its
operands derive theirs. -/
theorem Derives.of_formula {f : Formula}
    (hf : ∀ x ∈ f.operands, Derives grammar [] x.tokens (x.tree grammar))
    (h : Tiered tiers (f.map (Operand.tree grammar)) t) :
    Derives grammar tiers f.tokens t := by
  generalize hc : f.map (Operand.tree grammar) = c at h
  induction h generalizing f with
  | operand t =>
    obtain ⟨x, rest⟩ := f
    obtain ⟨rfl, hrest⟩ := Chain.mk.inj hc
    obtain rfl := List.map_eq_nil_iff.mp hrest
    rw [show Chain.mk x [] = Chain.single x from rfl, Formula.tokens_single]
    exact hf x List.mem_cons_self
  | next ops h ih => exact .next ops (ih hf hc)
  | join ho hl hr ihl ihr =>
    obtain ⟨f, g, rfl, rfl, rfl⟩ := Chain.exists_of_map_eq_join hc
    rw [Chain.operands_join] at hf
    rw [Formula.tokens_join]
    exact .join ho (ihl (fun x hx => hf x (List.mem_append_left _ hx)) rfl)
      (ihr (fun x hx => hf x (List.mem_append_right _ hx)) rfl)

/-- **Every operand derives its tree.** -/
theorem Operand.derives (hg : Ranks grammar) (x : Operand) :
    Derives grammar [] x.tokens (x.tree grammar) := by
  induction x using Operand.induction with
  | number digits hd =>
    obtain ⟨hne, hdigits⟩ := Decimal.isNumeral_iff.mp hd
    exact .number hne hdigits
  | group f ih =>
    rw [Operand.tokens_group, Operand.tree_group]
    exact .group (.of_formula ih ((tiered_iff_tree_eq hg).mpr rfl))

/-- **The sentences of a grammar are the tokens of the formulas**, and each
derives the tree of its formula. -/
theorem derives_iff (hg : Ranks grammar) :
    Derives grammar grammar ts t ↔ ∃ f : Formula, f.tokens = ts ∧ f.tree grammar = t := by
  constructor
  · intro h
    obtain ⟨f, hts, hf⟩ := h.exists_formula hg
    exact ⟨f, hts, (tiered_iff_tree_eq hg).mp hf⟩
  · rintro ⟨f, rfl, rfl⟩
    exact .of_formula (fun x _ => x.derives hg) ((tiered_iff_tree_eq hg).mpr rfl)

end

end IntegerCalculator
