import IntegerCalculator.Tree.Rendering
import Mathlib.Data.List.DropRight
import Mathlib.Data.Nat.Digits.Defs

/-!
# Numerals and the leaves they write

A numeral may begin with zeros and a number is written without them, so reading
and writing undo each other in one direction only. What is written reads back
(`Decimal.value_ofNat`); what is read is written **without its leading zeros**
(`Decimal.ofNat_value`), and two numerals read as the same number if and only if
they are the same but for these (`Decimal.value_eq_value_iff`). Zero is the case
that every statement has to name: nothing is left of its numerals, and yet it is
written `0`.

Reading goes from the left, ten times what is read plus the next digit. Behind a
positive number a digit that is read is a digit that will be written
(`Decimal.toDigits_ofDigitChars`). Behind zero it may be lost, and that is the
whole difference.
-/

namespace IntegerCalculator

namespace Decimal

/-- **A text of digits without its leading zeros.** Nothing is left of zeros
alone. -/
def withoutLeadingZeros (t : Text) : Text := t.dropWhile (· == '0')

/-- A digit is the numeral of what it stands for. -/
theorem toDigits_digit {c : Char} (hc : c.isDigit = true) :
    c.toNat - '0'.toNat < 10 ∧ Nat.toDigits 10 (c.toNat - '0'.toNat) = [c] := by
  obtain ⟨hlow, hhigh⟩ := Text.isDigit_iff_toNat.mp hc
  have hzero : '0'.toNat = 48 := rfl
  have hlt : c.toNat - '0'.toNat < 10 := by omega
  have hchar : (Nat.digitChar (c.toNat - '0'.toNat)).toNat = c.toNat := by
    rw [Nat.toNat_digitChar_of_lt_ten hlt]
    omega
  exact ⟨hlt, by rw [Nat.toDigits_of_lt_base hlt, Char.toNat_inj.mp hchar]⟩

/-- **Digits read behind a positive number are written behind it.** -/
theorem toDigits_ofDigitChars {n : Nat} (hn : 0 < n) {ds : Text}
    (hds : ∀ c ∈ ds, c.isDigit = true) :
    Nat.toDigits 10 (Nat.ofDigitChars 10 ds n) = Nat.toDigits 10 n ++ ds := by
  induction ds generalizing n with
  | nil => exact (List.append_nil _).symm
  | cons c ds ih =>
    obtain ⟨hc, hds⟩ := List.forall_mem_cons.mp hds
    obtain ⟨hlt, hdigit⟩ := toDigits_digit hc
    rw [Nat.ofDigitChars_cons, ih (by omega) hds,
      ← Nat.toDigits_append_toDigits (by decide) hn hlt, hdigit, List.append_assoc,
      List.singleton_append]

/-- A numeral that does not begin with a zero is the one that is written. -/
theorem ofNat_value_cons {c : Char} {ds : Text} (hc : c ≠ '0')
    (h : ∀ d ∈ c :: ds, d.isDigit = true) : ofNat (value (c :: ds)) = c :: ds := by
  obtain ⟨hdigit, hds⟩ := List.forall_mem_cons.mp h
  have hpos : 0 < c.toNat - '0'.toNat := by
    have hne : c.toNat ≠ '0'.toNat := mt Char.toNat_inj.mp hc
    have hlow : '0'.toNat ≤ c.toNat := (Text.isDigit_iff_toNat.mp hdigit).1
    omega
  rw [value_eq, ofNat_eq, Nat.ofDigitChars_cons, Nat.mul_zero, Nat.zero_add,
    toDigits_ofDigitChars hpos hds, (toDigits_digit hdigit).2, List.singleton_append]

/-- **The digits from the last to the first, by place value.** -/
theorem value_eq_ofDigits (t : Text) :
    value t = Nat.ofDigits 10 (t.reverse.map fun c => c.toNat - '0'.toNat) := by
  rw [value_eq, Nat.ofDigitChars_eq_foldl, Nat.ofDigits_eq_foldr, List.foldr_map,
    List.foldr_reverse]
  simp [Nat.add_comm]

/-! ## Leading zeros -/

theorem exists_eq_replicate_append (t : Text) :
    ∃ n, t = List.replicate n '0' ++ withoutLeadingZeros t := by
  have hzeros : ∀ c ∈ t.takeWhile (· == '0'), c = '0' := fun c hc =>
    beq_iff_eq.mp (List.mem_takeWhile_imp (p := (· == '0')) hc)
  refine ⟨(t.takeWhile (· == '0')).length, ?_⟩
  rw [← List.eq_replicate_of_mem hzeros]
  exact List.takeWhile_append_dropWhile.symm

theorem withoutLeadingZeros_replicate_append (n : Nat) (t : Text) :
    withoutLeadingZeros (List.replicate n '0' ++ t) = withoutLeadingZeros t :=
  List.dropWhile_append_of_pos fun _ hc => beq_iff_eq.mpr (List.eq_of_mem_replicate hc)

theorem ne_zero_of_withoutLeadingZeros {t : Text} {c : Char} {ds : Text}
    (h : withoutLeadingZeros t = c :: ds) : c ≠ '0' := by
  have hhead := List.head?_dropWhile_not (· == '0') t
  rw [show t.dropWhile (· == '0') = c :: ds from h] at hhead
  simpa using hhead

/-- **Leading zeros do not count.** -/
theorem value_withoutLeadingZeros (t : Text) : value (withoutLeadingZeros t) = value t := by
  obtain ⟨n, hn⟩ := exists_eq_replicate_append t
  calc value (withoutLeadingZeros t)
      = Nat.ofDigitChars 10 (withoutLeadingZeros t)
          (Nat.ofDigitChars 10 (List.replicate n '0') 0) := by
        rw [Nat.ofDigitChars_replicate_zero, Nat.mul_zero, value_eq]
    _ = value (List.replicate n '0' ++ withoutLeadingZeros t) := by
        rw [value_eq, Nat.ofDigitChars_append]
    _ = value t := by rw [← hn]

/-- **To differ in leading zeros** is to be the same without them. -/
theorem withoutLeadingZeros_eq_iff {s t : Text} :
    withoutLeadingZeros s = withoutLeadingZeros t
      ↔ ∃ m n rest, s = List.replicate m '0' ++ rest ∧ t = List.replicate n '0' ++ rest := by
  constructor
  · intro h
    obtain ⟨m, hm⟩ := exists_eq_replicate_append s
    obtain ⟨n, hn⟩ := exists_eq_replicate_append t
    exact ⟨m, n, withoutLeadingZeros t, h ▸ hm, hn⟩
  · rintro ⟨m, n, rest, rfl, rfl⟩
    rw [withoutLeadingZeros_replicate_append, withoutLeadingZeros_replicate_append]

section

variable {s t : Text} (hs : ∀ c ∈ s, c.isDigit = true) (ht : ∀ c ∈ t, c.isDigit = true)

include ht

/-- **What is read is written without its leading zeros**, and as `0` if it is
zeros alone. -/
theorem ofNat_value :
    ofNat (value t) = if withoutLeadingZeros t = [] then ['0'] else withoutLeadingZeros t := by
  rw [← value_withoutLeadingZeros]
  cases hrest : withoutLeadingZeros t with
  | nil => decide +kernel
  | cons c ds =>
    rw [if_neg (List.cons_ne_nil c ds)]
    have hdigits : ∀ d ∈ c :: ds, d.isDigit = true := by
      rw [← hrest]
      exact fun d hd => ht d ((List.dropWhile_sublist _).mem hd)
    exact ofNat_value_cons (ne_zero_of_withoutLeadingZeros hrest) hdigits

/-- To read a numeral and write it again takes nothing but leading zeros. -/
theorem withoutLeadingZeros_ofNat_value :
    withoutLeadingZeros (ofNat (value t)) = withoutLeadingZeros t := by
  rw [ofNat_value ht]
  by_cases hrest : withoutLeadingZeros t = []
  · rw [if_pos hrest, hrest]
    rfl
  · rw [if_neg hrest]
    exact List.dropWhile_idempotent (· == '0') t

include hs

/-- **Numerals of the same number differ in leading zeros only.** -/
theorem value_eq_value_iff :
    value s = value t ↔ withoutLeadingZeros s = withoutLeadingZeros t := by
  constructor
  · intro h
    rw [← withoutLeadingZeros_ofNat_value hs, h, withoutLeadingZeros_ofNat_value ht]
  · intro h
    rw [← value_withoutLeadingZeros s, h, value_withoutLeadingZeros]

end

end Decimal
/-! ## Leaves -/

namespace Tree

theorem ofDigits_eq_ok_iff {t : Text} {a : Tree} :
    ofDigits t = .ok a
      ↔ (t ≠ [] ∧ ∀ c ∈ t, c.isDigit = true) ∧ a = leaf (Decimal.value t) := by
  rw [← Decimal.isNumeral_iff]
  unfold ofDigits
  split
  · next h => simpa [h] using eq_comm
  · next h => simp [h]

theorem ofDigits_eq_error_iff {t : Text} {e : CalcError} :
    ofDigits t = .error e
      ↔ ¬ (t ≠ [] ∧ ∀ c ∈ t, c.isDigit = true) ∧ e = .malformedNumber t := by
  rw [← Decimal.isNumeral_iff]
  unfold ofDigits
  split
  · next h => simp [h]
  · next h => simpa [h] using eq_comm

theorem render_leaf (n : Int) : (leaf n).render = Decimal.ofInt n := by
  rw [render_eq_parenthesised, parenthesised]

/-- **The line of a leaf is a numeral, unless the leaf is negative**, and then
it writes that leaf. -/
theorem ofDigits_render_leaf_iff (n : Int) :
    ofDigits (leaf n).render = .ok (leaf n) ↔ 0 ≤ n := by
  rw [render_leaf, ofDigits_eq_ok_iff, ← Decimal.isNumeral_iff]
  cases n with
  | ofNat n =>
    have hvalue : Decimal.value (Decimal.ofInt (.ofNat n)) = n := Decimal.value_ofNat n
    have hnumeral : Decimal.isNumeral (Decimal.ofInt (.ofNat n)) = true :=
      Decimal.isNumeral_ofNat n
    rw [hvalue]
    exact iff_of_true ⟨hnumeral, rfl⟩ (Int.natCast_nonneg n)
  | negSucc n =>
    have hsign : ¬ Decimal.isNumeral (Decimal.ofInt (.negSucc n)) = true := by
      rw [Decimal.isNumeral_iff]
      exact fun h => absurd (h.2 '-' List.mem_cons_self) (by decide)
    exact iff_of_false (fun h => hsign h.1) (Int.negSucc_not_nonneg n).mp

/-- **Digits and leaves.** A text writes a leaf if and only if it is a nonempty
run of the digits `0` to `9`, and is refused by name otherwise. The leaf is the
number whose digits these are by place value, and its line is the text without
its leading zeros, or `0`. So the line of a leaf writes that leaf if it is not
negative, and two texts write the same leaf if and only if they differ in
leading zeros alone. -/
theorem digits_and_leaves :
    (∀ t : Text, (∃ a, ofDigits t = .ok a) ↔ t ≠ [] ∧ ∀ c ∈ t, c.isDigit = true)
    ∧ (∀ t e, ofDigits t = .error e → e = .malformedNumber t)
    ∧ (∀ t a, ofDigits t = .ok a →
        a = leaf (Nat.ofDigits 10 (t.reverse.map fun c => c.toNat - '0'.toNat) : Nat)
        ∧ a.render = if t.all (· == '0') then ['0'] else t.dropWhile (· == '0'))
    ∧ (∀ n : Int, ofDigits (leaf n).render = .ok (leaf n) ↔ 0 ≤ n)
    ∧ ∀ s t a b, ofDigits s = .ok a → ofDigits t = .ok b →
        (a.same b = true
          ↔ ∃ m n rest, s = List.replicate m '0' ++ rest ∧ t = List.replicate n '0' ++ rest) := by
  refine ⟨fun t => ?_, fun t e he => (ofDigits_eq_error_iff.mp he).2, fun t a ha => ?_,
    ofDigits_render_leaf_iff, fun s t a b ha hb => ?_⟩
  · simp only [ofDigits_eq_ok_iff]
    exact ⟨fun ⟨_, h, _⟩ => h, fun h => ⟨_, h, rfl⟩⟩
  · obtain ⟨⟨-, ht⟩, rfl⟩ := ofDigits_eq_ok_iff.mp ha
    have hzeros : Decimal.withoutLeadingZeros t = [] ↔ t.all (· == '0') = true := by
      rw [Decimal.withoutLeadingZeros, List.dropWhile_eq_nil_iff, List.all_eq_true]
    rw [← Decimal.value_eq_ofDigits, render_leaf]
    refine ⟨rfl, (Decimal.ofNat_value ht).trans ?_⟩
    simp only [hzeros]
    rfl
  · obtain ⟨⟨-, hs⟩, rfl⟩ := ofDigits_eq_ok_iff.mp ha
    obtain ⟨⟨-, ht⟩, rfl⟩ := ofDigits_eq_ok_iff.mp hb
    rw [same_iff_eq, ← Decimal.withoutLeadingZeros_eq_iff, ← Decimal.value_eq_value_iff hs ht]
    simp

/-- `007` and `7` write one leaf, whose line is `7`, and `00` writes the leaf
whose line is `0`; a sign, a blank or a digit of another script is refused. -/
theorem digits_and_leaves_seven :
    (∃ a b, ofDigits "007".toList = .ok a ∧ ofDigits "7".toList = .ok b
      ∧ a.same b = true ∧ a = leaf 7 ∧ a.render = "7".toList)
    ∧ (∃ c, ofDigits "00".toList = .ok c ∧ c.render = "0".toList)
    ∧ ∀ t ∈ ["".toList, "-4".toList, " 4".toList, "٣".toList],
        ofDigits t = .error (.malformedNumber t) := by
  obtain ⟨hok, herror, hleaf, -, hsame⟩ := digits_and_leaves
  obtain ⟨a, ha⟩ := (hok "007".toList).mpr (Decimal.isNumeral_iff.mp (by decide))
  obtain ⟨b, hb⟩ := (hok "7".toList).mpr (Decimal.isNumeral_iff.mp (by decide))
  obtain ⟨c, hc⟩ := (hok "00".toList).mpr (Decimal.isNumeral_iff.mp (by decide))
  refine ⟨⟨a, b, ha, hb, (hsame _ _ a b ha hb).mpr ⟨2, 0, ['7'], rfl, rfl⟩, ?_, ?_⟩,
    ⟨c, hc, ?_⟩, fun t ht => ?_⟩
  · exact (hleaf _ a ha).1.trans (by decide +kernel)
  · exact (hleaf _ a ha).2
  · exact (hleaf _ c hc).2
  · have hnot : ¬ Decimal.isNumeral t = true := by
      simp only [List.mem_cons, List.not_mem_nil, or_false] at ht
      rcases ht with rfl | rfl | rfl | rfl <;> decide
    cases h : ofDigits t with
    | ok a => exact absurd (Decimal.isNumeral_iff.mpr ((hok t).mp ⟨a, h⟩)) hnot
    | error e => rw [herror t e h]

end Tree

end IntegerCalculator
