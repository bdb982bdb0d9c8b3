import IntegerCalculator.Proofs.Places

/-!
# What becomes of a level

Many things can be wrong with a level at once, and its error names one of them.
An operator that lacks an operand comes before anything else; of several such
operators it is the one whose pass is first, wherever it stands. If no operator
lacks an operand the passes get to the end and leave operands only, and what is
left to go wrong is their number: there is none on an empty level, and more
than one if two operands stood side by side. In every other case there is a
tree.

Tokens without parentheses are one level, so this is also what becomes of them,
except that no tokens at all are an error of their own.
-/

namespace IntegerCalculator

/-- The item that a token is by itself. -/
def Token.item? : Token → Option Item
  | .number digits => some (.operand (.leaf (Decimal.value digits)))
  | .operator o => some (.operator o)
  | _ => none

namespace Level

/-- **Two operands stand side by side.** -/
def HasNeighbours (level : Level) : Prop :=
  ∃ before l r after, level = before ++ .operand l :: .operand r :: after

variable {level : Level}

theorem HasNeighbours.behind (h : level.HasNeighbours) (front : Level) :
    HasNeighbours (front ++ level) := by
  obtain ⟨before, l, r, after, rfl⟩ := h
  exact ⟨front ++ before, l, r, after, (List.append_assoc ..).symm⟩

/-- No operands stand side by side in a chain. -/
theorem not_hasNeighbours_items (c : Chain Tree) : ¬ HasNeighbours c.items := by
  obtain ⟨x, links⟩ := c
  rintro ⟨before, l, r, after, h⟩
  induction links generalizing x before with
  | nil => cases before <;> simp [Chain.items] at h
  | cons p links ih =>
    obtain ⟨o, t⟩ := p
    cases before with
    | nil => cases h
    | cons i before =>
      cases before with
      | nil => cases h
      | cons j before => exact ih t before (List.cons.inj (List.cons.inj h).2).2

/-- Behind an operand, a supplied place is one of the level that begins there. -/
theorem lacks_eq_false_of_append (front : Level) {t : Tree} {rest : Level} {o : Operator}
    (h : lacks (front ++ .operand t :: rest) o = false) : lacks (.operand t :: rest) o = false := by
  rw [lacks_eq_false_iff] at h ⊢
  rintro ⟨before, after⟩ hp
  have hcut := mem_places_iff.mp hp
  have := h ⟨front ++ before, after⟩ (mem_places_iff.mpr (by rw [hcut, List.append_assoc]))
  cases before with
  | nil => cases hcut
  | cons i before => simpa [Place.isSupplied] using this

/-- **A level on which nothing is missing is a chain.** -/
theorem exists_eq_items : ∀ level : Level, level ≠ [] → (∀ o, level.lacks o = false) →
    ¬ level.HasNeighbours → ∃ c : Chain Tree, level = c.items
  | [], hne, _, _ => absurd rfl hne
  | [.operand t], _, _, _ => ⟨.single t, rfl⟩
  | .operand l :: .operand r :: rest, _, _, hneighbours => absurd ⟨[], l, r, rest, rfl⟩ hneighbours
  | .operator o :: rest, _, hlacks, _ => by
    have := lacks_eq_false_iff.mp (hlacks o) ⟨[], rest⟩ (mem_places_iff.mpr rfl)
    simp [Place.isSupplied, endsOperand] at this
  | .operand t :: .operator o :: rest, _, hlacks, hneighbours => by
    have hsupplied := lacks_eq_false_iff.mp (hlacks o) ⟨[.operand t], rest⟩
      (mem_places_iff.mpr rfl)
    obtain ⟨u, rest, rfl⟩ := startsOperand_iff.mp (Bool.and_eq_true_iff.mp hsupplied).2
    obtain ⟨c, hc⟩ := exists_eq_items (.operand u :: rest) (List.cons_ne_nil _ _)
      (fun q => lacks_eq_false_of_append [.operand t, .operator o] (hlacks q))
      fun h => hneighbours (h.behind [.operand t, .operator o])
    exact ⟨(Chain.single t).join o c, by rw [hc]; simp⟩

/-- What the passes leave is empty only if there was nothing. -/
theorem eq_nil_of_passes {ops : List Operator} (h : passes ops level = .ok []) : level = [] := by
  induction ops generalizing level with
  | nil =>
    cases h
    rfl
  | cons op ops ih =>
    rw [passes_cons] at h
    obtain ⟨l, hpass, h⟩ := exists_of_bind_eq_ok h
    obtain rfl := ih h
    cases expands_of_pass hpass
    rfl

/-- The passes do their work before the operands that are left are counted. -/
theorem toTree_eq_passes (level : Level) :
    level.toTree = level.passes Operator.passOrder >>= sole := rfl

/-- When operands are counted, only their number can be wrong. -/
theorem sole_eq_error {e : CalcError} (h : level.sole = .error e) :
    (e = .emptyGroup ∧ level = []) ∨ e = .missingOperator := by
  unfold sole at h
  split at h
  · cases h
  · cases h
    exact .inl ⟨rfl, rfl⟩
  · cases h
    exact .inr rfl

/-- No operator is found to blame if none lacks an operand. -/
theorem find?_lacks_eq_none_iff :
    Operator.passOrder.find? level.lacks = none ↔ ∀ o, level.lacks o = false := by
  rw [List.find?_eq_none]
  exact ⟨fun h o => Bool.eq_false_of_not_eq_true (h o o.mem_passOrder),
    fun h o _ => Bool.not_eq_true _ ▸ h o⟩

/-- **The first operator that lacks an operand is blamed.** -/
theorem toTree_eq_missingOperand_iff {c : Operator} :
    level.toTree = .error (.missingOperand c) ↔ Operator.passOrder.find? level.lacks = some c := by
  have hpasses {e : CalcError} : level.passes Operator.passOrder = .error e
      ↔ ∃ c, Operator.passOrder.find? level.lacks = some c ∧ e = .missingOperand c :=
    passes_eq_error_iff (by decide)
  rw [toTree_eq_passes]
  constructor
  · intro h
    rcases eq_error_or_of_bind_eq_error h with h | ⟨l, -, h⟩
    · obtain ⟨c', hc', heq⟩ := hpasses.mp h
      cases heq
      exact hc'
    · obtain ⟨h, -⟩ | h := sole_eq_error h <;> cases h
  · intro h
    rw [hpasses.mpr ⟨c, h, rfl⟩]
    rfl

/-- **Side by side, operands lack an operator**, once no operator lacks an
operand. -/
theorem toTree_of_hasNeighbours (h : Operator.passOrder.find? level.lacks = none)
    (hneighbours : level.HasNeighbours) : level.toTree = .error .missingOperator := by
  cases htree : level.toTree with
  | ok t =>
    obtain ⟨c, rfl, -⟩ := toTree_eq_ok_iff.mp htree
    exact absurd hneighbours (not_hasNeighbours_items c)
  | error e =>
    rw [toTree_eq_passes] at htree
    rcases eq_error_or_of_bind_eq_error htree with hpasses | ⟨l, hpasses, hsole⟩
    · obtain ⟨c, hc, -⟩ := (passes_eq_error_iff (by decide)).mp hpasses
      rw [h] at hc
      cases hc
    · rcases sole_eq_error hsole with ⟨-, rfl⟩ | rfl
      · obtain rfl := eq_nil_of_passes hpasses
        obtain ⟨before, l, r, after, hnil⟩ := hneighbours
        cases before <;> cases hnil
      · rfl

end Level

/-- **Without parentheses, tokens spell the level of their items.** -/
theorem spells_filterMap_item {ts : List Token}
    (hflat : ∀ t ∈ ts, t ≠ .openParen ∧ t ≠ .closeParen)
    (hnumbers : ∀ digits, .number digits ∈ ts → Decimal.isNumeral digits = true) :
    Spells ts (ts.filterMap Token.item?) := by
  induction ts with
  | nil => exact .nil
  | cons t ts ih =>
    have ih := ih (fun u hu => hflat u (List.mem_cons_of_mem t hu))
      fun d hd => hnumbers d (List.mem_cons_of_mem t hd)
    cases t with
    | number d => exact .number (hnumbers d List.mem_cons_self) ih
    | operator o => exact .operator o ih
    | openParen => exact absurd rfl (hflat _ List.mem_cons_self).1
    | closeParen => exact absurd rfl (hflat _ List.mem_cons_self).2

/-- **What becomes of a level**, and of tokens without parentheses.

An operator lacks an operand if, on the level as it was written, the item just
before it or the item just behind it is no operand. The first such operator in
the order of the passes is blamed, wherever it stands. Without one, an empty
level is an empty group, operands side by side lack an operator, and every other
level has a tree. No operator is ever left when the passes have got to the
end. -/
theorem Level.toTree_verdict :
    (∀ level : Level,
        (∀ c, Operator.passOrder.find? level.lacks = some c →
            level.toTree = .error (.missingOperand c))
          ∧ (Operator.passOrder.find? level.lacks = none →
              (level = [] → level.toTree = .error .emptyGroup)
                ∧ (level.HasNeighbours → level.toTree = .error .missingOperator)
                ∧ (level ≠ [] → ¬ level.HasNeighbours → ∃ t, level.toTree = .ok t))
          ∧ ∀ result, level.passes Operator.passOrder = .ok result →
              ∀ o, .operator o ∉ result)
      ∧ ∀ ts : List Token, (∀ t ∈ ts, t ≠ .openParen ∧ t ≠ .closeParen) →
          (∀ digits, .number digits ∈ ts → Decimal.isNumeral digits = true) →
            Tree.parse ts = if ts = [] then .error .emptyInput
              else Level.toTree (ts.filterMap Token.item?) := by
  refine ⟨fun level => ⟨fun c => toTree_eq_missingOperand_iff.mpr, fun hnone => ?_,
    fun result hpasses o ho => (operator_mem_of_passes hpasses ho).2 o.mem_passOrder⟩, ?_⟩
  · refine ⟨?_, toTree_of_hasNeighbours hnone, fun hne hneighbours => ?_⟩
    · rintro rfl
      rfl
    · obtain ⟨c, rfl⟩ := exists_eq_items level hne (find?_lacks_eq_none_iff.mp hnone) hneighbours
      exact exists_toTree_items c
  · intro ts hflat hnumbers
    split
    · next hnil => rw [hnil, Tree.parse_nil]
    · next hne => exact (spells_filterMap_item hflat hnumbers).parse hne

/-- In `1 + - 2 3 /` the last operator is blamed, for its pass is before those
of the `+` and the `-`; that `2` and `3` lack an operator is not said. In
`1 2 * 3` nothing else is wrong, and in `1 / 2 * 3` nothing at all. -/
theorem Level.toTree_verdict_several :
    Tree.parse [.number ['1'], .operator .add, .operator .sub, .number ['2'], .number ['3'],
        .operator .div] = .error (.missingOperand .div)
      ∧ Tree.parse [.number ['1'], .number ['2'], .operator .mul, .number ['3']]
        = .error .missingOperator
      ∧ (∃ t, Tree.parse [.number ['1'], .operator .div, .number ['2'], .operator .mul,
          .number ['3']] = .ok t) := by
  obtain ⟨hlevel, htokens⟩ := toTree_verdict
  refine ⟨?_, ?_, ?_⟩
  · rw [htokens _ (by decide) (by simp [Decimal.isNumeral])]
    exact (hlevel _).1 .div rfl
  · rw [htokens _ (by decide) (by simp [Decimal.isNumeral])]
    exact ((hlevel _).2.1 rfl).2.1 ⟨[], _, _, _, rfl⟩
  · rw [htokens _ (by decide) (by simp [Decimal.isNumeral])]
    refine ((hlevel _).2.1 rfl).2.2 (List.cons_ne_nil _ _) ?_
    exact not_hasNeighbours_items ⟨.leaf (Decimal.value ['1']),
      [(.div, .leaf (Decimal.value ['2'])), (.mul, .leaf (Decimal.value ['3']))]⟩

end IntegerCalculator
