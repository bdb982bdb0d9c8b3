import IntegerCalculator.Proofs.Chain

/-!
# What the passes make of a level

The passes rewrite a level in place, one operator at a time. Read backwards,
one pass opens every operand of its output into a chain whose only operator is
the operator of the pass (`Expands`); read forwards, it closes every such chain
into an operand, whatever stands around it (`passFrom_items`). The two together
say that a pass strips the tightest tier off a chain, so the four passes read a
chain under `passTiers` and refuse every level that is no chain
(`toTree_eq_ok_iff`); and no chain is refused (`exists_toTree_items`).
-/

namespace IntegerCalculator

/-! ## Results of two steps -/

section

variable {ε α β : Type} {x : Except ε α}

/-- Two steps in a row succeed one after the other. -/
theorem exists_of_bind_eq_ok {f : α → Except ε β} {b : β} (h : x >>= f = .ok b) :
    ∃ a, x = .ok a ∧ f a = .ok b := by
  cases x with
  | error e => cases h
  | ok a => exact ⟨a, rfl, h⟩

/-- Two steps in a row fail in the first or in the second. -/
theorem eq_error_or_of_bind_eq_error {f : α → Except ε β} {e : ε}
    (h : x >>= f = .error e) : x = .error e ∨ ∃ a, x = .ok a ∧ f a = .error e := by
  cases x with
  | error e' =>
    cases h
    exact .inl rfl
  | ok a => exact .inr ⟨a, rfl, h⟩

theorem exists_of_map_eq_ok {f : α → β} {b : β} (h : x.map f = .ok b) :
    ∃ a, x = .ok a ∧ f a = b := by
  cases x with
  | error e => cases h
  | ok a => exact ⟨a, rfl, Except.ok.inj h⟩

theorem eq_ok_of_toOption {a : α} (h : x.toOption = some a) : x = .ok a := by
  cases x with
  | error e => cases h
  | ok b => exact congrArg Except.ok (Option.some.inj h)

end

namespace Level

/-- **What a pass has folded, opened again**: every operand of the first level
is the tree of a chain of `op` in the second, everything else is the same. -/
inductive Expands (op : Operator) : Level → Level → Prop
  | nil : Expands op [] []
  | operator (o : Operator) {l m : Level} :
      Expands op l m → Expands op (.operator o :: l) (.operator o :: m)
  | operand {c : Chain Tree} {t : Tree} {l m : Level} :
      Tiered [[op]] c t → Expands op l m → Expands op (.operand t :: l) (c.items ++ m)

namespace Expands

variable {op : Operator}

theorem append {l l' m m' : Level} (h : Expands op l m) (h' : Expands op l' m') :
    Expands op (l ++ l') (m ++ m') := by
  induction h with
  | nil => exact h'
  | operator o h ih => exact .operator o ih
  | operand hc h ih =>
    rw [List.append_assoc]
    exact .operand hc ih

/-- What expands two levels side by side is cut where they meet. -/
theorem exists_of_append {l l' n : Level} (h : Expands op (l ++ l') n) :
    ∃ m m', n = m ++ m' ∧ Expands op l m ∧ Expands op l' m' := by
  induction l generalizing n with
  | nil => exact ⟨[], n, rfl, .nil, h⟩
  | cons i l ih =>
    cases h with
    | operator o h =>
      obtain ⟨m, m', rfl, hm, hm'⟩ := ih h
      exact ⟨.operator o :: m, m', rfl, .operator o hm, hm'⟩
    | @operand c t _ _ hc h =>
      obtain ⟨m, m', rfl, hm, hm'⟩ := ih h
      exact ⟨c.items ++ m, m', (List.append_assoc ..).symm, .operand hc hm, hm'⟩

/-- One operand is opened into one chain. -/
theorem exists_of_operand {t : Tree} {m : Level} (h : Expands op [.operand t] m) :
    ∃ c, m = c.items ∧ Tiered [[op]] c t := by
  cases h with
  | @operand c _ _ _ hc h =>
    cases h
    exact ⟨c, List.append_nil _, hc⟩

/-- **A chain of opened operands is a chain, with one tier more below.** -/
theorem exists_of_tiered {tiers : List (List Operator)} {c : Chain Tree} {t : Tree}
    {m : Level} (hc : Tiered tiers c t) (h : Expands op c.items m) :
    ∃ d, m = d.items ∧ Tiered (tiers ++ [[op]]) d t := by
  induction hc generalizing m with
  | operand t => exact exists_of_operand h
  | next ops hc ih =>
    obtain ⟨d, rfl, hd⟩ := ih h
    exact ⟨d, rfl, .next ops hd⟩
  | @join ops tiers c d l r o ho hl hr ihl ihr =>
    rw [Chain.items_join] at h
    obtain ⟨m, n, rfl, hm, hn⟩ := h.exists_of_append
    obtain ⟨c', rfl, hc'⟩ := ihl hm
    cases hn with
    | operator _ hn =>
      obtain ⟨d', rfl, hd'⟩ := ihr hn
      exact ⟨c'.join o d', (Chain.items_join ..).symm, .join ho hc' hd'⟩

end Expands

/-! ## One pass -/

/-- **What a pass puts out expands to what it has read.** -/
theorem expands_of_passFrom {op : Operator} {out rest l m : Level}
    (h : passFrom op out rest = .ok l) (hm : Expands op out.reverse m) :
    Expands op l (m ++ rest) := by
  fun_induction passFrom op out rest generalizing m with
  | case1 out =>
    cases h
    rwa [List.append_nil]
  | case2 out t rest ih =>
    have ht : Expands op [.operand t] [.operand t] := .operand (.single [[op]] t) .nil
    have := ih h (m := m ++ [.operand t]) (by
      rw [List.reverse_cons]
      exact hm.append ht)
    rwa [List.append_assoc] at this
  | case3 l out r rest ih =>
    -- the left operand already stands for a chain of `op`, which the fold lengthens
    rw [List.reverse_cons] at hm
    obtain ⟨m, n, rfl, hout, hl⟩ := hm.exists_of_append
    obtain ⟨c, rfl, hc⟩ := hl.exists_of_operand
    have hfold : Tiered [[op]] (c.join op (.single r)) (.node l op r) :=
      .join (List.mem_singleton_self op) hc (.single [] r)
    have hnode : Expands op [.operand (.node l op r)] (c.join op (.single r)).items := by
      have := Expands.operand hfold .nil
      rwa [List.append_nil] at this
    have := ih h (m := m ++ (c.join op (.single r)).items) (by
      rw [List.reverse_cons]
      exact hout.append hnode)
    simpa using this
  | case4 => cases h
  | case5 out o rest ho ih =>
    have := ih h (m := m ++ [.operator o]) (by
      rw [List.reverse_cons]
      exact hm.append (.operator o .nil))
    rwa [List.append_assoc] at this

/-- **A pass over a chain strips its tightest tier**, and it does so wherever
the chain stands: what is put out before it and what follows it are untouched.

The operator right behind the chain may even be the one of the pass: it finds
the last tree of the chain as its left operand, as it should. -/
theorem passFrom_items {op : Operator} {tiers : List (List Operator)} {c : Chain Tree}
    {t : Tree} (h : Tiered (tiers ++ [[op]]) c t) (hop : op ∉ tiers.flatten) :
    ∃ d, Tiered tiers d t ∧ ∀ out rest,
      passFrom op out (c.items ++ rest) = passFrom op (d.items.reverse ++ out) rest := by
  generalize hts : tiers ++ [[op]] = ts at h
  induction h generalizing tiers with
  | operand t => simp at hts
  | @next ops ts c t h ih =>
    cases tiers with
    | nil =>
      cases hts
      refine ⟨c, h, fun out rest => ?_⟩
      rw [h.eq_single]
      rfl
    | cons ops tiers =>
      cases hts
      obtain ⟨d, hd, hpass⟩ := ih (fun hmem => hop (List.mem_append_right _ hmem)) rfl
      exact ⟨d, .next ops hd, hpass⟩
  | @join ops ts c d l r o ho hl hr ihl ihr =>
    cases tiers with
    | nil =>
      cases hts
      obtain ⟨c', hc', hpass⟩ := ihl hop rfl
      rw [hc'.eq_single] at hpass
      rw [List.mem_singleton.mp ho, hr.eq_single]
      refine ⟨.single (.node l op r), .operand _, fun out rest => ?_⟩
      rw [Chain.items_join, List.append_assoc, hpass]
      exact passFrom_fold op out l r rest
    | cons ops tiers =>
      cases hts
      obtain ⟨c', hc', hpassc⟩ := ihl hop rfl
      obtain ⟨d', hd', hpassd⟩ := ihr (fun hmem => hop (List.mem_append_right _ hmem)) rfl
      have hne : o ≠ op := fun e => hop (List.mem_append_left _ (e ▸ ho))
      refine ⟨c'.join o d', .join ho hc' hd', fun out rest => ?_⟩
      rw [Chain.items_join, List.append_assoc, hpassc, List.cons_append,
        passFrom_operator_of_ne hne, hpassd]
      simp

/-! ## All passes -/

/-- The level that the passes of `ops` make, then its only operand. -/
def foldPasses (ops : List Operator) (level : Level) : Except CalcError Tree :=
  ops.foldlM (fun items op => pass op items) level >>= sole

theorem foldPasses_cons (op : Operator) (ops : List Operator) (level : Level) :
    foldPasses (op :: ops) level = pass op level >>= foldPasses ops := by
  simp only [foldPasses, List.foldlM_cons, bind_assoc]
  rfl

/-- The tiers of some passes, the last pass loosest. -/
def tiersOf (ops : List Operator) : List (List Operator) :=
  ops.reverse.map fun op => [op]

theorem tiersOf_cons (op : Operator) (ops : List Operator) :
    tiersOf (op :: ops) = tiersOf ops ++ [[op]] := by
  simp [tiersOf]

theorem mem_flatten_tiersOf {op : Operator} {ops : List Operator} :
    op ∈ (tiersOf ops).flatten ↔ op ∈ ops := by
  rw [tiersOf, ← List.flatMap_def, List.mem_flatMap]
  simp

theorem sole_eq_ok_iff {level : Level} {t : Tree} :
    level.sole = .ok t ↔ level = [.operand t] := by
  constructor
  · intro h
    unfold sole at h
    split at h <;> cases h
    rfl
  · rintro rfl
    rfl

/-- **Different passes read a chain under their tiers**, and nothing but
chains. -/
theorem foldPasses_eq_ok_iff {ops : List Operator} (hops : ops.Nodup) {level : Level}
    {t : Tree} :
    foldPasses ops level = .ok t ↔ ∃ c, level = c.items ∧ Tiered (tiersOf ops) c t := by
  induction ops generalizing level with
  | nil =>
    rw [show foldPasses [] level = level.sole from rfl, sole_eq_ok_iff]
    constructor
    · rintro rfl
      exact ⟨.single t, rfl, .operand t⟩
    · rintro ⟨c, rfl, hc⟩
      rw [hc.eq_single]
      rfl
  | cons op ops ih =>
    obtain ⟨hop, hops⟩ := List.nodup_cons.mp hops
    rw [foldPasses_cons, tiersOf_cons]
    constructor
    · intro h
      obtain ⟨level', hpass, h⟩ := exists_of_bind_eq_ok h
      obtain ⟨c, rfl, hc⟩ := (ih hops).mp h
      exact (expands_of_passFrom hpass .nil).exists_of_tiered hc
    · rintro ⟨c, rfl, hc⟩
      obtain ⟨d, hd, hpass⟩ := passFrom_items hc (mt mem_flatten_tiersOf.mp hop)
      have hpass : pass op c.items = .ok d.items := by
        have := hpass [] []
        rw [List.append_nil, List.append_nil] at this
        rw [pass, this, passFrom, List.reverse_reverse]
      rw [hpass]
      exact (ih hops).mpr ⟨d, rfl, hd⟩

/-- **A level has a tree exactly when it is a chain**, and the tree is that of
the chain under the tiers of the passes. -/
theorem toTree_eq_ok_iff {level : Level} {t : Tree} :
    level.toTree = .ok t ↔ ∃ c, level = c.items ∧ Tiered passTiers c t := by
  have hpasses : Operator.passOrder.Nodup := by decide
  exact foldPasses_eq_ok_iff hpasses

theorem toTree_items_eq_ok_iff {c : Chain Tree} {t : Tree} :
    c.items.toTree = .ok t ↔ Tiered passTiers c t := by
  rw [toTree_eq_ok_iff]
  constructor
  · rintro ⟨d, hitems, hd⟩
    rwa [Chain.items_injective hitems]
  · exact fun h => ⟨c, rfl, h⟩

/-! ## No chain is refused -/

/-- One pass over a chain leaves a chain of the other operators. -/
theorem exists_passFrom_linkItems (op : Operator) (out : List Item) (t : Tree)
    (rest : List (Operator × Tree)) :
    ∃ c : Chain Tree, c.operators = (rest.map Prod.fst).filter (· ≠ op)
      ∧ passFrom op (.operand t :: out) (rest.flatMap Chain.linkItems)
        = .ok (out.reverse ++ c.items) := by
  induction rest generalizing out t with
  | nil => exact ⟨.single t, rfl, by simp [passFrom]⟩
  | cons p rest ih =>
    obtain ⟨o, u⟩ := p
    by_cases ho : o = op
    · subst ho
      obtain ⟨c, hc, hpass⟩ := ih out (.node t o u)
      refine ⟨c, by simpa using hc, ?_⟩
      rw [← hpass]
      exact passFrom_fold o out t u _
    · obtain ⟨c, hc, hpass⟩ := ih (.operator o :: .operand t :: out) u
      refine ⟨(Chain.single t).join o c, by simp [ho, hc], ?_⟩
      show passFrom op (.operand t :: out)
        (.operator o :: .operand u :: rest.flatMap Chain.linkItems) = _
      rw [passFrom_operator_of_ne ho, passFrom_operand, hpass]
      simp

/-- The passes get to the end of every chain of their operators. -/
theorem exists_foldPasses_items {ops : List Operator} {c : Chain Tree}
    (h : ∀ o ∈ c.operators, o ∈ ops) : ∃ t, foldPasses ops c.items = .ok t := by
  induction ops generalizing c with
  | nil =>
    have hc : c.operators = [] := List.eq_nil_iff_forall_not_mem.mpr fun o ho =>
      List.not_mem_nil (h o ho)
    rw [Chain.eq_single_of_operators_eq_nil hc]
    exact ⟨c.first, rfl⟩
  | cons op ops ih =>
    obtain ⟨d, hd, hpass⟩ := exists_passFrom_linkItems op [] c.first c.rest
    obtain ⟨t, ht⟩ := ih (c := d) (by
      intro o ho
      rw [hd, List.mem_filter, decide_eq_true_eq] at ho
      exact (List.mem_cons.mp (h o ho.1)).resolve_left ho.2)
    refine ⟨t, ?_⟩
    rw [foldPasses_cons, show pass op c.items = .ok d.items from hpass]
    exact ht

/-- **Every chain has a tree.** -/
theorem exists_toTree_items (c : Chain Tree) : ∃ t, c.items.toTree = .ok t :=
  exists_foldPasses_items fun o _ => o.mem_passOrder

end Level

end IntegerCalculator
