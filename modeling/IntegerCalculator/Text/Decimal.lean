import IntegerCalculator.Text.Basic

/-!
# Decimal numbers as texts

A **numeral** is a nonempty run of the digits `0` to `9`: no sign, no
separator, no digit of another script. `value` reads it in base ten, leading
zeros included; `ofNat` and `ofInt` write a number with no leading zero, a
negative one behind a minus sign.

Numbers of a hundred thousand digits are ordinary here, so reading and writing
go by blocks of `blockLength` digits: a block fits a machine word, and the
large number is touched once a block and not once a digit. `value_eq` and
`ofNat_eq` say that the blocks leave no trace, `value_ofNat` that what is
written reads back, and `ofInt_append_injective` that in a longer text it reads
back still, provided that no digit follows.
-/

namespace IntegerCalculator.Decimal

/-- Whether the text is a nonempty run of the digits `0` to `9`. -/
def isNumeral (t : Text) : Bool := !t.isEmpty && t.all Char.isDigit

/-- How many digits are read or written at once. -/
def blockLength : Nat := 18

/-- Reads a run of digits behind the number `n`, a block at a time. -/
def valueFrom (n : Nat) : Text → Nat
  | [] => n
  | d :: ds =>
    let block := d :: ds.take (blockLength - 1)
    valueFrom (Nat.pow 10 block.length * n + Nat.ofDigitChars 10 block 0)
      (ds.drop (blockLength - 1))
termination_by t => t.length
decreasing_by simp only [List.length_drop, List.length_cons]; omega

/-- **The number a run of digits writes in base ten.** -/
def value (digits : Text) : Nat := valueFrom 0 digits

/-- The last `k` digits of `n` in front of `rest`, zeros included. -/
def lastDigits : Nat → Nat → Text → Text
  | 0, _, rest => rest
  | k + 1, n, rest => lastDigits k (n / 10) (Nat.digitChar (n % 10) :: rest)

/-- Writes `n` in front of `rest`, a block at a time. -/
def write (n : Nat) (rest : Text) : Text :=
  let bound := Nat.pow 10 blockLength
  if n < bound then Nat.toDigits 10 n ++ rest
  else write (n / bound) (lastDigits blockLength (n % bound) rest)
termination_by n
decreasing_by
  rename_i h
  have hn : 0 < n := Nat.lt_of_lt_of_le (by decide) (Nat.le_of_not_lt h)
  exact Nat.div_lt_self hn (by decide)

/-- **A natural number in base ten.** -/
def ofNat (n : Nat) : Text := write n []

/-- **An integer in base ten**, a minus sign in front of a negative one. -/
def ofInt : Int → Text
  | .ofNat n => ofNat n
  | .negSucc n => '-' :: ofNat (n + 1)

theorem isNumeral_iff {t : Text} :
    isNumeral t = true ↔ t ≠ [] ∧ ∀ c ∈ t, c.isDigit = true := by
  simp [isNumeral]

/-! ## The blocks leave no trace -/

theorem valueFrom_eq (n : Nat) (t : Text) : valueFrom n t = Nat.ofDigitChars 10 t n := by
  fun_induction valueFrom n t with
  | case1 n => rfl
  | case2 n d ds block ih =>
    have hblock : Nat.ofDigitChars 10 block n =
        Nat.pow 10 block.length * n + Nat.ofDigitChars 10 block 0 :=
      Nat.ofDigitChars_eq_ofDigitChars_zero
    rw [ih, ← hblock, ← Nat.ofDigitChars_append]
    simp [block]

/-- **Reading block by block is reading digit by digit.** -/
theorem value_eq (t : Text) : value t = Nat.ofDigitChars 10 t 0 := valueFrom_eq 0 t

theorem lastDigits_mod (k n : Nat) (rest : Text) :
    lastDigits k (n % Nat.pow 10 k) rest = lastDigits k n rest := by
  induction k generalizing n rest with
  | zero => rfl
  | succ k ih =>
    have hpow : Nat.pow 10 (k + 1) = 10 * Nat.pow 10 k := Nat.mul_comm ..
    have hdiv : n % Nat.pow 10 (k + 1) / 10 = n / 10 % Nat.pow 10 k := by
      rw [hpow, Nat.mod_mul_right_div_self]
    have hmod : n % Nat.pow 10 (k + 1) % 10 = n % 10 :=
      Nat.mod_mod_of_dvd _ ⟨_, hpow⟩
    rw [lastDigits, lastDigits, hdiv, hmod, ih]

/-- The digits of a number are those of its quotient by a power of ten and
then its last ones. -/
theorem toDigits_append_eq {k n : Nat} (h : Nat.pow 10 k ≤ n) (rest : Text) :
    Nat.toDigits 10 n ++ rest =
      Nat.toDigits 10 (n / Nat.pow 10 k) ++ lastDigits k n rest := by
  induction k generalizing n rest with
  | zero =>
    have hone : Nat.pow 10 0 = 1 := rfl
    rw [hone, Nat.div_one, lastDigits]
  | succ k ih =>
    have hpow : Nat.pow 10 (k + 1) = 10 * Nat.pow 10 k := Nat.mul_comm ..
    have hpos : 0 < Nat.pow 10 k := Nat.pow_pos (by decide)
    rw [hpow] at h ⊢
    have hn : ¬ n < 10 := by omega
    have hk : Nat.pow 10 k ≤ n / 10 := by omega
    rw [Nat.toDigits_eq_if (by decide), if_neg hn, List.append_assoc, List.singleton_append,
      ih hk, lastDigits, Nat.div_div_eq_div_mul]

theorem write_eq (n : Nat) (rest : Text) : write n rest = Nat.toDigits 10 n ++ rest := by
  fun_induction write n rest with
  | case1 n rest bound h => rfl
  | case2 n rest bound h ih =>
    rw [ih, lastDigits_mod, ← toDigits_append_eq (Nat.le_of_not_lt h)]

/-- **Writing block by block is writing digit by digit.** -/
theorem ofNat_eq (n : Nat) : ofNat n = Nat.toDigits 10 n := by
  rw [ofNat, write_eq, List.append_nil]

/-- **Integers are written in base ten as everywhere else.** -/
theorem ofInt_eq_toString (n : Int) : ofInt n = (toString n).toList := by
  cases n with
  | ofNat n =>
    show ofNat n = n.repr.toList
    rw [ofNat_eq, Nat.toList_repr]
  | negSucc n =>
    show '-' :: ofNat (n + 1) = ("-" ++ (n + 1).repr).toList
    rw [ofNat_eq, String.toList_append, Nat.toList_repr]
    rfl

/-! ## Reading what is written -/

/-- **What is written reads back.** -/
@[simp] theorem value_ofNat (n : Nat) : value (ofNat n) = n := by
  rw [value_eq, ofNat_eq]
  exact Nat.ofDigitChars_toDigits (by decide) (by decide)

theorem isDigit_of_mem_ofNat {n : Nat} {c : Char} (h : c ∈ ofNat n) :
    c.isDigit = true :=
  Nat.isDigit_of_mem_toDigits (by decide) (by decide) (ofNat_eq n ▸ h)

theorem ofNat_ne_nil (n : Nat) : ofNat n ≠ [] := ofNat_eq n ▸ Nat.toDigits_ne_nil

theorem ofInt_ne_nil (n : Int) : ofInt n ≠ [] := by
  cases n with
  | ofNat n => exact ofNat_ne_nil n
  | negSucc n => exact List.cons_ne_nil _ _

/-- The text of a natural number is a numeral. -/
theorem isNumeral_ofNat (n : Nat) : isNumeral (ofNat n) = true :=
  isNumeral_iff.mpr ⟨ofNat_ne_nil n, fun _ => isDigit_of_mem_ofNat⟩

/-! ## Telling written numbers apart -/

/-- **An integer is written with digits and the minus sign.** -/
theorem isDigit_or_eq_minus_of_mem_ofInt {n : Int} {c : Char} (h : c ∈ ofInt n) :
    c.isDigit = true ∨ c = '-' := by
  cases n with
  | ofNat n => exact .inl (isDigit_of_mem_ofNat h)
  | negSucc n =>
    rcases List.mem_cons.mp h with rfl | h
    · exact .inr rfl
    · exact .inl (isDigit_of_mem_ofNat h)

/-- **A number begins with a digit**, whatever text it stands in front of. -/
theorem ofNat_append_ne_cons {c : Char} (hc : c.isDigit = false) (n : Nat) (s t : Text) :
    ofNat n ++ s ≠ c :: t := by
  obtain ⟨d, ds, hd⟩ := List.exists_cons_of_ne_nil (ofNat_ne_nil n)
  have hdigit : d.isDigit = true := isDigit_of_mem_ofNat (hd ▸ List.mem_cons_self)
  intro h
  rw [hd, List.cons_append] at h
  rw [(List.cons.inj h).1, hc] at hdigit
  cases hdigit

/-- A number ends where its digits end. -/
theorem takeWhile_ofNat_append (n : Nat) {s : Text} (hs : ∀ c ∈ s.head?, c.isDigit = false) :
    (ofNat n ++ s).takeWhile Char.isDigit = ofNat n := by
  have hrest : s.takeWhile Char.isDigit = [] := by
    cases s with
    | nil => rfl
    | cons c s => simp [hs c rfl]
  rw [List.takeWhile_append_of_pos fun c hc => isDigit_of_mem_ofNat hc, hrest, List.append_nil]

section

variable {s t : Text} (hs : ∀ c ∈ s.head?, c.isDigit = false)
  (ht : ∀ c ∈ t.head?, c.isDigit = false)

include hs ht

/-- The same text begins with the same natural number, if no digit follows it. -/
theorem ofNat_append_injective {m n : Nat} (h : ofNat m ++ s = ofNat n ++ t) :
    m = n ∧ s = t := by
  have htext : ofNat m = ofNat n := by
    rw [← takeWhile_ofNat_append m hs, h, takeWhile_ofNat_append n ht]
  have hvalue : m = n := by rw [← value_ofNat m, htext, value_ofNat]
  rw [htext] at h
  exact ⟨hvalue, List.append_cancel_left h⟩

/-- **The same text begins with the same integer**, if no digit follows it. -/
theorem ofInt_append_injective {m n : Int} (h : ofInt m ++ s = ofInt n ++ t) :
    m = n ∧ s = t := by
  cases m with
  | ofNat m =>
    cases n with
    | ofNat n =>
      obtain ⟨rfl, hst⟩ := ofNat_append_injective hs ht h
      exact ⟨rfl, hst⟩
    | negSucc n => exact absurd h (ofNat_append_ne_cons (by decide) m s _)
  | negSucc m =>
    cases n with
    | ofNat n => exact absurd h.symm (ofNat_append_ne_cons (by decide) n t _)
    | negSucc n =>
      obtain ⟨hmn, hst⟩ := ofNat_append_injective hs ht (List.cons.inj h).2
      exact ⟨congrArg Int.negSucc (Nat.succ.inj hmn), hst⟩

end

/-- **Integers are told apart by their texts.** -/
theorem ofInt_injective {m n : Int} (h : ofInt m = ofInt n) : m = n := by
  have hend : ofInt m ++ [] = ofInt n ++ [] := by rw [h]
  exact (ofInt_append_injective (by simp) (by simp) hend).1

end IntegerCalculator.Decimal
