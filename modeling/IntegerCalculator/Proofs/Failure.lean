import Mathlib.Data.Nat.Find
import IntegerCalculator.Proofs.FirstFault
import IntegerCalculator.Proofs.FoldCount

/-!
# Why tokens have no tree

A reading that fails stops at the first token at fault, or at the end. At a
token it stops for one of three reasons: a number is no numeral, a parenthesis
closes nothing, or the level that is closed has no tree. At the end it stops
because a parenthesis is open or because the outermost level has no tree. So the
error alone tells much of what is wrong (`Tree.Failure`): a level says that an
operand or an operator is missing, and only the two kinds of parentheses without
a partner share their error.

Of these two the tokens themselves tell which it is. The parenthesis that stops
a reading is **stray**: as many are closed as opened before it. It is the first
stray one, but to be stray is not enough: an ill-formed group that is closed
before ends the reading there.
-/

namespace IntegerCalculator

/-- **The token of this index closes a parenthesis that was never opened**: as
many are closed as opened before it. -/
def StrayAt (ts : List Token) (i : Nat) : Prop :=
  ts[i]? = some .closeParen
    ∧ (ts.take i).count .closeParen = (ts.take i).count .openParen

/-- **The first token at fault.** -/
def FirstFault (ts : List Token) (i : Nat) : Prop :=
  FaultAt ts i ∧ ∀ j < i, ¬ FaultAt ts j

/-- **A stray parenthesis ends the reading**: the first token at fault is
stray. -/
def StopsAtStray (ts : List Token) (i : Nat) : Prop :=
  FirstFault ts i ∧ StrayAt ts i

section

variable {ts : List Token} {i j : Nat}

theorem StrayAt.faultAt (h : StrayAt ts i) : FaultAt ts i :=
  ⟨.closeParen, h.1, .close h.2⟩

theorem FirstFault.unique (hi : FirstFault ts i) (hj : FirstFault ts j) : i = j := by
  rcases Nat.lt_trichotomy i j with hij | hij | hij
  · exact absurd hi.1 (hj.2 i hij)
  · exact hij
  · exact absurd hj.1 (hi.2 j hij)

/-- Some token at fault is the first. -/
theorem exists_firstFault_or (ts : List Token) :
    (∃ i, FirstFault ts i) ∨ ∀ i, ¬ FaultAt ts i := by
  classical
  by_cases h : ∃ i, FaultAt ts i
  · exact .inl ⟨Nat.find h, Nat.find_spec h, fun _ hj => Nat.find_min h hj⟩
  · exact .inr (not_exists.mp h)

/-- **What ends a reading is the first stray parenthesis**, if it is one. -/
theorem StopsAtStray.not_strayAt (h : StopsAtStray ts i) (hj : j < i) : ¬ StrayAt ts j :=
  fun hstray => h.1.2 j hj hstray.faultAt

/-- **At the first fault a reading that tracks the tokens before it stops.** -/
theorem FirstFault.exists_refused (h : FirstFault ts i) :
    ∃ (r : Reading) (us : List Token) (t : Token) (vs : List Token) (e : CalcError),
      ts = us ++ t :: vs ∧ us.length = i ∧ r.Tracks us ∧ r.read t = .error e := by
  obtain ⟨⟨t, ht, hfault⟩, hfirst⟩ := h
  obtain ⟨r, hr⟩ := Reading.exists_tracks_take hfirst
  obtain ⟨e, he⟩ := hr.fault_iff.mp hfault
  obtain ⟨hi, ht⟩ := List.getElem?_eq_some_iff.mp ht
  have hlength : (ts.take i).length = i := List.length_take_of_le (Nat.le_of_lt hi)
  refine ⟨r, ts.take i, t, ts.drop (i + 1), e, ?_, hlength, hr, he⟩
  rw [← ht, ← List.drop_eq_getElem_cons hi, List.take_append_drop]

end

namespace Reading

variable {r : Reading} {t : Token}

/-- **A parenthesis is stray when no level is set aside.** -/
theorem Tracks.strayAt_iff {us : List Token} (h : r.Tracks us) (vs : List Token) :
    StrayAt (us ++ t :: vs) us.length ↔ t = .closeParen ∧ r.suspended = [] := by
  have hcount := h.count_openParen
  rw [StrayAt, List.take_left, List.getElem?_append_right (Nat.le_refl _), Nat.sub_self,
    List.getElem?_cons_zero, Option.some.injEq, ← List.length_eq_zero_iff]
  refine and_congr_right fun _ => ?_
  omega

/-- **No token is at fault that a reading has got through.** -/
theorem Tracks.not_faultAt {us : List Token} (h : r.Tracks us) (vs : List Token) {i : Nat}
    (hi : i < us.length) : ¬ FaultAt (us ++ vs) i := by
  rintro ⟨u, hu, hfault⟩
  rw [List.getElem?_append_left hi, List.getElem?_eq_getElem hi] at hu
  rw [List.take_append_of_le_length (Nat.le_of_lt hi)] at hfault
  have hread := h.readAll
  rw [← List.take_append_drop i us, readAll_append] at hread
  obtain ⟨s, hs, hread⟩ := exists_of_bind_eq_ok hread
  rw [List.drop_eq_getElem_cons hi, Option.some.inj hu, readAll_cons] at hread
  obtain ⟨s', hs', -⟩ := exists_of_bind_eq_ok hread
  obtain ⟨e, he⟩ := (readAll_eq_ok_iff_tracks.mp hs).fault_iff.mp hfault
  rw [hs'] at he
  cases he

/-- **A closing parenthesis ends a reading that has set no level aside.** -/
theorem Tracks.stopsAtStray {us : List Token} (h : r.Tracks us) (hsus : r.suspended = [])
    (vs : List Token) : StopsAtStray (us ++ .closeParen :: vs) us.length := by
  have hstray := (h.strayAt_iff vs).mpr ⟨rfl, hsus⟩
  exact ⟨⟨hstray.faultAt, fun _ => h.not_faultAt _⟩, hstray⟩

/-- At the end an open parenthesis comes before what is wrong on any level. -/
theorem finish_of_suspended_ne_nil (h : r.suspended ≠ []) :
    r.finish = .error .unbalancedParentheses := by
  obtain ⟨current, suspended⟩ := r
  cases suspended with
  | nil => exact absurd rfl h
  | cons outer suspended => rfl

end Reading

namespace Tree

/-- **Why tokens have no tree**, by the error. -/
inductive Failure (ts : List Token) : CalcError → Prop
  /-- There is no token. -/
  | empty : ts = [] → Failure ts .emptyInput
  /-- A number is no numeral. -/
  | number {digits : Text} : .number digits ∈ ts → ¬ Decimal.isNumeral digits = true →
      Failure ts (.malformedNumber digits)
  /-- The first fault is a parenthesis that closes nothing. -/
  | stray {i : Nat} : StopsAtStray ts i → Failure ts .unbalancedParentheses
  /-- There is no fault, but a parenthesis that is never closed. -/
  | unclosed : Unclosed ts → (∀ i, ¬ FaultAt ts i) → Failure ts .unbalancedParentheses
  /-- Some level has no tree. -/
  | level {e : CalcError} : e.isOfLevel = true → Failure ts e

variable {ts : List Token} {e : CalcError}

/-- **A failure is one of these.** -/
theorem failure_of_parse (h : Tree.parse ts = .error e) : Failure ts e := by
  by_cases hne : ts = []
  · subst hne
    cases h
    exact .empty rfl
  rcases exists_firstFault_or ts with ⟨i, hi⟩ | hsound
  -- the error is what is reported of the first token at fault, or else of the end
  · obtain ⟨r, us, t, vs, e', rfl, rfl, hr, he⟩ := hi.exists_refused
    obtain rfl : e' = e := by
      rw [parse_of_read_error hr he vs] at h
      exact Except.error.inj h
    cases hr.read_eq_error_iff.mp he with
    | number hdigits => exact .number (by simp) (mt Decimal.isNumeral_iff.mp hdigits)
    | close hcount => exact .stray ⟨hi, by simp, by rwa [List.take_left]⟩
    | group _ _ hlevel => exact .level (Level.isOfLevel_of_toTree hlevel)
  · obtain ⟨r, hr, hparse⟩ := exists_tracks_of_not_fault hne hsound
    by_cases hopen : Unclosed ts
    · rw [hparse, Reading.finish_of_suspended_ne_nil (hr.unclosed_iff.mp hopen)] at h
      cases h
      exact .unclosed hopen hsound
    · have hsus := Decidable.not_not.mp (mt hr.unclosed_iff.mpr hopen)
      rw [hparse, Reading.finish, hsus] at h
      exact .level (Level.isOfLevel_of_toTree h)

/-- **Only no token at all is empty input.** -/
theorem parse_eq_emptyInput_iff : Tree.parse ts = .error .emptyInput ↔ ts = [] := by
  constructor
  · intro h
    cases failure_of_parse h with
    | empty hnil => exact hnil
    | level hlevel => cases hlevel
  · rintro rfl
    exact parse_nil

/-- **Reading divides nothing.** -/
theorem parse_ne_divisionByZero (ts : List Token) :
    Tree.parse ts ≠ .error .divisionByZero := by
  intro h
  cases failure_of_parse h with
  | level hlevel => cases hlevel

/-- **Numerals are never malformed.** -/
theorem parse_ne_malformedNumber
    (h : ∀ digits, .number digits ∈ ts → Decimal.isNumeral digits = true) (digits : Text) :
    Tree.parse ts ≠ .error (.malformedNumber digits) := by
  intro hparse
  cases failure_of_parse hparse with
  | number hmem hdigits => exact hdigits (h _ hmem)
  | level hlevel => cases hlevel

/-- A stray parenthesis that ends the reading is reported. -/
theorem parse_of_stopsAtStray {i : Nat} (h : StopsAtStray ts i) :
    Tree.parse ts = .error .unbalancedParentheses := by
  obtain ⟨r, us, t, vs, -, rfl, rfl, hr, -⟩ := h.1.exists_refused
  obtain ⟨rfl, hsus⟩ := (hr.strayAt_iff vs).mp h.2
  refine parse_of_read_error hr ?_ vs
  rw [Reading.read, hsus]

/-- Without a fault a parenthesis that is never closed is reported. -/
theorem parse_of_unclosed (h : Unclosed ts) (hsound : ∀ i, ¬ FaultAt ts i) :
    Tree.parse ts = .error .unbalancedParentheses := by
  have hne : ts ≠ [] := by
    rintro rfl
    obtain ⟨outer, rest, heq, -⟩ := h
    simp at heq
  obtain ⟨r, hr, hparse⟩ := exists_tracks_of_not_fault hne hsound
  rw [hparse, Reading.finish_of_suspended_ne_nil (hr.unclosed_iff.mp h)]

/-- **The two causes of unbalanced parentheses.** -/
theorem parse_eq_unbalanced_iff :
    Tree.parse ts = .error .unbalancedParentheses
      ↔ (∃ i, StopsAtStray ts i) ∨ (Unclosed ts ∧ ∀ i, ¬ FaultAt ts i) := by
  constructor
  · intro h
    cases failure_of_parse h with
    | stray hstray => exact .inl ⟨_, hstray⟩
    | unclosed hopen hsound => exact .inr ⟨hopen, hsound⟩
    | level hlevel => cases hlevel
  · rintro (⟨i, hstray⟩ | ⟨hopen, hsound⟩)
    · exact parse_of_stopsAtStray hstray
    · exact parse_of_unclosed hopen hsound

end Tree

end IntegerCalculator
