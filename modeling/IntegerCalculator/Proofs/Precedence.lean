import IntegerCalculator.Proofs.FirstFault
import IntegerCalculator.Proofs.Merging
import IntegerCalculator.Proofs.Sentences

/-!
# Where the passes depart from convention

Conventional arithmetic reads the same sentences as the passes, but it ranks
`+` with `-` and `*` with `/`, so it may build another tree. It does so exactly
when some level of parentheses departs from convention: when a `+` stands
behind a `-` on it, or a `*` behind a `/` of the same term
(`Tree.parse_conventional_iff`).

The levels are found in the tokens: the tokens themselves, and what stands
between a parenthesis and the one that closes it (`Encloses`). Among the tokens
of a formula these are the formulas nested in it (`Formula.encloses_iff`), and
along this nesting the two trees are compared level by level. A difference deep
inside is never undone further out, because a tree tells the chain it was made
from (`Tiered.chain_unique`): operands that differ make trees that differ.
-/

namespace IntegerCalculator

/-! ## The levels of the tokens -/

/-- The operators at depth 0, when the tokens begin at the given depth. -/
def operatorsFrom : Nat → List Token → List Operator
  | _, [] => []
  | d, .number _ :: ts => operatorsFrom d ts
  | 0, .operator o :: ts => o :: operatorsFrom 0 ts
  | d + 1, .operator _ :: ts => operatorsFrom (d + 1) ts
  | d, .openParen :: ts => operatorsFrom (d + 1) ts
  | d, .closeParen :: ts => operatorsFrom (d - 1) ts

/-- **The operators directly on the level of the tokens**, none of them inside
a group. -/
def directOperators (ts : List Token) : List Operator := operatorsFrom 0 ts

/-- **The tokens enclose `inner`**: it stands between a parenthesis and the one
that closes it. -/
def Encloses (ts inner : List Token) : Prop :=
  ∃ outer rest, ts = outer ++ .openParen :: (inner ++ .closeParen :: rest) ∧ Balanced inner

theorem not_encloses_nil (inner : List Token) : ¬ Encloses [] inner := by
  rintro ⟨outer, rest, h, -⟩
  simp at h

/-- **The first token opens the level, or another one does.** -/
theorem encloses_cons_iff {t : Token} {ts inner : List Token} :
    Encloses (t :: ts) inner
      ↔ (t = .openParen ∧ Balanced inner ∧ ∃ rest, ts = inner ++ .closeParen :: rest)
        ∨ Encloses ts inner := by
  constructor
  · rintro ⟨outer, rest, h, hinner⟩
    cases outer with
    | nil =>
      obtain ⟨rfl, rfl⟩ := List.cons.inj h
      exact .inl ⟨rfl, hinner, rest, rfl⟩
    | cons u outer => exact .inr ⟨outer, rest, (List.cons.inj h).2, hinner⟩
  · rintro (⟨rfl, hinner, rest, rfl⟩ | ⟨outer, rest, rfl, hinner⟩)
    · exact ⟨[], rest, rfl, hinner⟩
    · exact ⟨t :: outer, rest, rfl, hinner⟩

/-- A token that opens nothing opens no level. -/
theorem encloses_cons_of_ne {t : Token} (ht : t ≠ .openParen) {ts inner : List Token} :
    Encloses (t :: ts) inner ↔ Encloses ts inner := by
  rw [encloses_cons_iff, or_iff_right fun h => ht h.1]

namespace Balanced

/-- What is balanced is not closed on the way. -/
theorem not_append_closeParen {inner us : List Token} (h : Balanced inner) :
    ¬ Balanced (inner ++ .closeParen :: us) := by
  intro h'
  have hprefix := h'.2 (inner ++ [.closeParen]) us (by simp)
  have hcount := h.1
  simp only [List.count_append, count_closeParen_cons, List.count_nil] at hprefix
  omega

/-- **Only one closing parenthesis has balanced tokens before it.** -/
theorem unique_before {inner inner' rest rest' : List Token} (h : Balanced inner)
    (h' : Balanced inner')
    (heq : inner ++ .closeParen :: rest = inner' ++ .closeParen :: rest') :
    inner = inner' := by
  rcases List.append_eq_append_iff.mp heq with ⟨us, rfl, hus⟩ | ⟨us, rfl, hus⟩
  · cases us with
    | nil => rw [List.append_nil]
    | cons u us =>
      obtain ⟨rfl, -⟩ := List.cons.inj hus
      exact absurd h' h.not_append_closeParen
  · cases us with
    | nil => rw [List.append_nil]
    | cons u us =>
      obtain ⟨rfl, -⟩ := List.cons.inj hus
      exact absurd h h'.not_append_closeParen

end Balanced

/-! ## The levels of a formula -/

mutual

/-- The formulas inside an operand, to any depth. -/
def Operand.levels : Operand → List Formula
  | .number _ _ => []
  | .group ⟨x, rest⟩ => ⟨x, rest⟩ :: (x.levels ++ linkLevels rest)

/-- The formulas inside operands behind operators. -/
def linkLevels : List (Operator × Operand) → List Formula
  | [] => []
  | (_, x) :: rest => x.levels ++ linkLevels rest

end

/-- **The formulas nested in a formula**, to any depth. -/
def Formula.inner (f : Formula) : List Formula := f.operands.flatMap Operand.levels

theorem linkLevels_eq_flatMap (rest : List (Operator × Operand)) :
    linkLevels rest = (rest.map Prod.snd).flatMap Operand.levels := by
  induction rest with
  | nil => rfl
  | cons p rest ih =>
    rw [linkLevels, ih]
    rfl

/-- The levels of a group are its formula and the formulas nested in it. -/
theorem Operand.levels_group (f : Formula) : (group f).levels = f :: f.inner := by
  obtain ⟨x, rest⟩ := f
  rw [Operand.levels, linkLevels_eq_flatMap]
  rfl

theorem Formula.balanced_tokens (f : Formula) : Balanced f.tokens := by
  obtain ⟨c, h, -⟩ := f.exists_spells
  exact h.balanced

section

variable {us inner : List Token}

/-- No operator inside an operand is on the level around it. -/
def Operand.Hidden (x : Operand) : Prop :=
  ∀ d us, operatorsFrom d (x.tokens ++ us) = operatorsFrom d us

/-- At depth, nothing of a chain is seen. -/
theorem operatorsFrom_succ_linkTokens {l : List (Operator × Operand)}
    (hl : ∀ p ∈ l, p.2.Hidden) (d : Nat) :
    operatorsFrom (d + 1) (linkTokens l ++ us) = operatorsFrom (d + 1) us := by
  induction l with
  | nil => rfl
  | cons p l ih =>
    show operatorsFrom (d + 1) (p.2.tokens ++ linkTokens l ++ us) = _
    rw [List.append_assoc, hl p List.mem_cons_self,
      ih fun p hp => hl p (List.mem_cons_of_mem _ hp)]

theorem Operand.hidden (x : Operand) : x.Hidden := by
  induction x using Operand.induction with
  | number digits hd =>
    intro d us
    cases d <;> rfl
  | group f ih =>
    intro d us
    have hopen : (group f).tokens ++ us
        = .openParen :: (f.first.tokens ++ (linkTokens f.rest ++ .closeParen :: us)) := by
      simp [Operand.tokens_group, Formula.tokens]
    have hstep : operatorsFrom d ((group f).tokens ++ us)
        = operatorsFrom (d + 1)
            (f.first.tokens ++ (linkTokens f.rest ++ .closeParen :: us)) := by
      rw [hopen]
      cases d <;> rfl
    rw [hstep, ih f.first List.mem_cons_self, operatorsFrom_succ_linkTokens fun p hp =>
      ih p.2 (Chain.mem_operands_of_mem_rest hp)]
    rfl

/-- **The operators on the level of a formula** are those that join its
operands. -/
theorem Formula.directOperators_tokens (f : Formula) :
    directOperators f.tokens = f.operators := by
  obtain ⟨x, l⟩ := f
  have hl : operatorsFrom 0 (linkTokens l) = l.map Prod.fst := by
    induction l with
    | nil => rfl
    | cons p l ih =>
      show p.1 :: operatorsFrom 0 (p.2.tokens ++ linkTokens l) = _
      rw [p.2.hidden, ih, List.map_cons]
  rw [directOperators, Formula.tokens, x.hidden, hl]
  rfl

/-- The levels inside an operand are those that its tokens enclose. -/
def Operand.Nests (x : Operand) : Prop :=
  ∀ us inner, Encloses (x.tokens ++ us) inner
    ↔ (∃ g ∈ x.levels, Formula.tokens g = inner) ∨ Encloses us inner

theorem encloses_linkTokens_append {l : List (Operator × Operand)}
    (hl : ∀ p ∈ l, p.2.Nests) :
    Encloses (linkTokens l ++ us) inner
      ↔ (∃ g ∈ (l.map Prod.snd).flatMap Operand.levels, Formula.tokens g = inner)
        ∨ Encloses us inner := by
  induction l with
  | nil => simp [linkTokens]
  | cons p l ih =>
    rw [linkTokens, List.cons_append, encloses_cons_of_ne (t := .operator p.1) nofun,
      List.append_assoc, hl p List.mem_cons_self,
      ih fun p hp => hl p (List.mem_cons_of_mem _ hp), ← or_assoc, List.map_cons,
      List.flatMap_cons]
    simp only [List.mem_append, or_and_right, exists_or]

theorem Formula.encloses_tokens_append {f : Formula} (hf : ∀ x ∈ f.operands, x.Nests) :
    Encloses (f.tokens ++ us) inner
      ↔ (∃ g ∈ f.inner, g.tokens = inner) ∨ Encloses us inner := by
  rw [Formula.tokens, List.append_assoc, hf f.first List.mem_cons_self,
    encloses_linkTokens_append fun p hp =>
      hf p.2 (Chain.mem_operands_of_mem_rest hp), ← or_assoc]
  simp only [Formula.inner, Chain.operands, List.flatMap_cons, List.mem_append, or_and_right,
    exists_or]

theorem Operand.nests (x : Operand) : x.Nests := by
  induction x using Operand.induction with
  | number digits hd =>
    intro us inner
    rw [Operand.tokens, List.singleton_append, encloses_cons_of_ne (t := .number digits) nofun,
      Operand.levels]
    simp
  | group f ih =>
    intro us inner
    -- the parenthesis in front is closed behind the formula
    have hfirst : (Balanced inner ∧ ∃ rest,
        f.tokens ++ .closeParen :: us = inner ++ .closeParen :: rest) ↔ f.tokens = inner := by
      constructor
      · rintro ⟨hinner, rest, h⟩
        exact f.balanced_tokens.unique_before hinner h
      · rintro rfl
        exact ⟨f.balanced_tokens, us, rfl⟩
    rw [Operand.tokens_group, List.cons_append, List.append_assoc, List.singleton_append,
      encloses_cons_iff, and_iff_right rfl, hfirst, Formula.encloses_tokens_append ih,
      encloses_cons_of_ne (t := .closeParen) nofun, Operand.levels_group, ← or_assoc]
    simp only [List.mem_cons, or_and_right, exists_or, exists_eq_left]

/-- **The levels that the tokens of a formula enclose** are the formulas nested
in it. -/
theorem Formula.encloses_iff {f : Formula} :
    Encloses f.tokens inner ↔ ∃ g ∈ f.inner, g.tokens = inner := by
  have h : Encloses (f.tokens ++ []) inner ↔ _ :=
    Formula.encloses_tokens_append fun x _ => x.nests
  rwa [List.append_nil, or_iff_left (not_encloses_nil inner)] at h

end

/-! ## The two trees of a formula -/

/-- The tree of an operand has as many leaves under any ranking. -/
theorem Operand.leaves_tree_eq {grammar grammar' : List (List Operator)} (h : Ranks grammar)
    (h' : Ranks grammar') (x : Operand) :
    (x.tree grammar).leaves = (x.tree grammar').leaves := by
  induction x using Operand.induction with
  | number digits hd => rfl
  | group f ih =>
    rw [Operand.tree_group, Operand.tree_group,
      ← ((tiered_iff_tree_eq h).mpr rfl).sum_leaves_eq (t := f.tree grammar),
      ← ((tiered_iff_tree_eq h').mpr rfl).sum_leaves_eq (t := f.tree grammar')]
    simp only [Chain.operands_map, List.map_map]
    exact congrArg List.sum (List.map_congr_left ih)

/-- **One level**: the two trees of a formula are the same exactly when those of
its operands are and its operators do not depart from convention. -/
theorem Formula.tree_conventional_eq_iff (f : Formula) :
    f.tree conventionalTiers = f.tree passTiers
      ↔ (∀ x ∈ f.operands, x.tree conventionalTiers = x.tree passTiers)
        ∧ ¬ Departs f.operators := by
  have hpass : Tiered passTiers (f.map (Operand.tree passTiers)) (f.tree passTiers) :=
    (tiered_iff_tree_eq ranks_passTiers).mpr rfl
  have hconv : Tiered conventionalTiers (f.map (Operand.tree conventionalTiers))
      (f.tree conventionalTiers) :=
    (tiered_iff_tree_eq ranks_conventionalTiers).mpr rfl
  rw [← Chain.operators_map (Operand.tree passTiers), ← hpass.conventional_iff]
  constructor
  · intro heq
    rw [heq] at hconv
    have hleaves : (f.map (Operand.tree passTiers)).map Tree.leaves
        = (f.map (Operand.tree conventionalTiers)).map Tree.leaves := by
      rw [Chain.map_map, Chain.map_map]
      exact Chain.map_congr fun x _ =>
        x.leaves_tree_eq ranks_passTiers ranks_conventionalTiers
    have hchain := hpass.chain_unique hconv hleaves
    refine ⟨List.map_inj_left.mp ?_, hchain ▸ hconv⟩
    rw [← Chain.operands_map, ← Chain.operands_map, hchain]
  · rintro ⟨hoperands, h⟩
    rw [← Chain.map_congr hoperands] at h
    exact (tiered_iff_tree_eq ranks_conventionalTiers).mp h

/-- The two trees of an operand are the same exactly when no level inside it
departs from convention. -/
theorem Operand.tree_conventional_eq_iff (x : Operand) :
    x.tree conventionalTiers = x.tree passTiers ↔ ∀ g ∈ x.levels, ¬ Departs g.operators := by
  induction x using Operand.induction with
  | number digits hd => exact iff_of_true rfl nofun
  | group f ih =>
    rw [Operand.tree_group, Operand.tree_group, Formula.tree_conventional_eq_iff,
      Operand.levels_group, List.forall_mem_cons, and_comm]
    refine and_congr_right fun _ => ?_
    simp only [Formula.inner, List.mem_flatMap, forall_exists_index, and_imp]
    exact ⟨fun h g x hx hg => (ih x hx).mp (h x hx) g hg,
      fun h x hx => (ih x hx).mpr fun g hg => h g x hx hg⟩

namespace Tree

/-- **The calculator departs from conventional precedence exactly when a level
does.**

Whatever has a tree has a conventional tree too, and only one. The two are the
same if and only if no level of the tokens, outermost or enclosed, has a `+`
anywhere behind a `-`, or a `*` anywhere behind a `/` with no `+` or `-`
between. -/
theorem parse_conventional_iff {ts : List Token} {e : Tree} (h : parse ts = .ok e) :
    ∃ t, Derives conventionalTiers conventionalTiers ts t
      ∧ (∀ u, Derives conventionalTiers conventionalTiers ts u → u = t)
      ∧ (t = e ↔ ¬ Departs (directOperators ts)
          ∧ ∀ inner, Encloses ts inner → ¬ Departs (directOperators inner)) := by
  obtain ⟨f, rfl, rfl⟩ := (derives_iff ranks_passTiers).mp (derives_of_parse h)
  refine ⟨f.tree conventionalTiers, (derives_iff ranks_conventionalTiers).mpr ⟨f, rfl, rfl⟩,
    fun u hu => ?_, ?_⟩
  · obtain ⟨g, hg, rfl⟩ := (derives_iff ranks_conventionalTiers).mp hu
    rw [Formula.tokens_injective hg]
  · have hlevels := (Operand.group f).tree_conventional_eq_iff
    rw [Operand.tree_group, Operand.tree_group, Operand.levels_group,
      List.forall_mem_cons] at hlevels
    rw [hlevels, Formula.directOperators_tokens]
    refine and_congr_right fun _ => ⟨fun hinner inner hencl => ?_, fun hencl g hg => ?_⟩
    · obtain ⟨g, hg, rfl⟩ := Formula.encloses_iff.mp hencl
      rw [Formula.directOperators_tokens]
      exact hinner g hg
    · have := hencl g.tokens (Formula.encloses_iff.mpr ⟨g, hg, rfl⟩)
      rwa [Formula.directOperators_tokens] at this

/-- In `(1 - 2 + 3) * 4` the group alone departs from convention, and the tree
of the whole is not the conventional one. -/
theorem parse_conventional_iff_group :
    ∃ t, Derives conventionalTiers conventionalTiers
        [.openParen, .number ['1'], .operator .sub, .number ['2'], .operator .add,
          .number ['3'], .closeParen, .operator .mul, .number ['4']] t
      ∧ t ≠ node (node (leaf 1) .sub (node (leaf 2) .add (leaf 3))) .mul (leaf 4) := by
  let inner : List Token :=
    [.number ['1'], .operator .sub, .number ['2'], .operator .add, .number ['3']]
  have hparse : parse (.openParen :: (inner ++ [.closeParen, .operator .mul, .number ['4']]))
      = .ok (node (node (leaf 1) .sub (node (leaf 2) .add (leaf 3))) .mul (leaf 4)) := by
    decide +kernel
  have hinner : Balanced inner :=
    .cons nofun nofun (.cons nofun nofun (.cons nofun nofun
      (.cons nofun nofun (.cons nofun nofun .nil))))
  obtain ⟨t, ht, -, hiff⟩ := parse_conventional_iff hparse
  refine ⟨t, ht, fun heq => (hiff.mp heq).2 inner ⟨[], _, rfl, hinner⟩ (.inl ?_)⟩
  decide

end Tree

end IntegerCalculator
