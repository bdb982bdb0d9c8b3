import IntegerCalculator.Proofs.Tokenizing

/-!
# The tokens of two texts side by side

The only thing that can happen where two texts meet is that a number goes on.
If the first ends with a digit and the second begins with one
(`Text.MeetInNumber`), the last number of the first and the first number of the
second become one number, and no other token changes; otherwise the tokens of
the whole are the tokens of the first and then those of the second. Nothing
else is remembered from one text to the other: not a space, not a letter, not a
digit of another script.

So the tokens keep every character that can be part of one
(`Token.characters`), in order, and forget all others; and one of those others
may come or go wherever it is not all that keeps two numbers apart.
-/

namespace IntegerCalculator

/-- **The characters that tokens are made of.** -/
def Token.characters : Text :=
  ['0', '1', '2', '3', '4', '5', '6', '7', '8', '9', '+', '-', '*', '/', '(', ')']

namespace Text

/-- **A number may go on where the texts meet**: the first ends with a digit and
the second begins with one. -/
def MeetInNumber (s t : Text) : Prop :=
  s.getLast?.any Char.isDigit = true ∧ t.head?.any Char.isDigit = true

instance (s t : Text) : Decidable (MeetInNumber s t) := inferInstanceAs (Decidable (_ ∧ _))

/-- Texts that do not meet in a number are kept apart on one side or on the
other. -/
theorem not_meetInNumber_iff {s t : Text} :
    ¬ MeetInNumber s t
      ↔ (∀ c ∈ s.getLast?, c.isDigit = false) ∨ ∀ c ∈ t.head?, c.isDigit = false := by
  rw [MeetInNumber, Decidable.not_and_iff_or_not]
  simp [Option.any_eq_false]

/-- A text is its first digits and what follows them. -/
theorem exists_eq_digits_append (t : Text) :
    ∃ d u : Text, t = d ++ u ∧ (∀ c ∈ d, c.isDigit = true) ∧ ∀ c ∈ u.head?, c.isDigit = false := by
  refine ⟨t.takeWhile Char.isDigit, t.dropWhile Char.isDigit,
    List.takeWhile_append_dropWhile.symm, List.all_eq_true.mp List.all_takeWhile, ?_⟩
  intro c hc
  have := List.head?_dropWhile_not Char.isDigit t
  rwa [Option.mem_def.mp hc] at this

/-- A text is what stands before its last digits, and these. -/
theorem exists_eq_append_digits (s : Text) :
    ∃ u d : Text, s = u ++ d ∧ (∀ c ∈ d, c.isDigit = true)
      ∧ ∀ c ∈ u.getLast?, c.isDigit = false := by
  obtain ⟨d, u, hs, hd, hu⟩ := exists_eq_digits_append s.reverse
  refine ⟨u.reverse, d.reverse, ?_, fun c hc => hd c (List.mem_reverse.mp hc), ?_⟩
  · rw [← List.reverse_append, ← hs, List.reverse_reverse]
  · rwa [List.getLast?_reverse]

end Text

/-- The tokens of texts that do not meet in a number are those of the one and
those of the other. -/
theorem tokenize_append_of_not_meet {s t : Text} (h : ¬ Text.MeetInNumber s t) :
    tokenize (s ++ t) = tokenize s ++ tokenize t := by
  rcases Text.not_meetInNumber_iff.mp h with h | h
  · exact tokenize_append_of_getLast h t
  · exact tokenize_append_of_head s h

/-- **Where two texts meet in a number, two numbers become one.** -/
theorem exists_tokenize_append_of_meet {s t : Text} (h : Text.MeetInNumber s t) :
    ∃ ts d e us, tokenize s = ts ++ [.number d] ∧ tokenize t = .number e :: us
      ∧ tokenize (s ++ t) = ts ++ .number (d ++ e) :: us := by
  obtain ⟨u, d, rfl, hd, hu⟩ := s.exists_eq_append_digits
  obtain ⟨e, v, rfl, he, hv⟩ := t.exists_eq_digits_append
  -- the digits on both sides are not empty, or something else would meet there
  have hdne : d ≠ [] := by
    rintro rfl
    rw [List.append_nil] at h
    exact Text.not_meetInNumber_iff.mpr (.inl hu) h
  have hene : e ≠ [] := by
    rintro rfl
    exact Text.not_meetInNumber_iff.mpr (.inr hv) h
  have hd' : Decimal.isNumeral d = true := Decimal.isNumeral_iff.mpr ⟨hdne, hd⟩
  have he' : Decimal.isNumeral e = true := Decimal.isNumeral_iff.mpr ⟨hene, he⟩
  have hde : Decimal.isNumeral (d ++ e) = true :=
    Decimal.isNumeral_iff.mpr ⟨List.append_ne_nil_of_left_ne_nil hdne e, fun c hc =>
      (List.mem_append.mp hc).elim (hd c) (he c)⟩
  refine ⟨tokenize u, d, e, tokenize v, ?_, tokenize_numeral_append he' hv, ?_⟩
  · have hlast : tokenize d = [.number d] := by
      simpa using tokenize_numeral_append hd' (t := []) (by simp)
    rw [tokenize_append_of_getLast hu, hlast]
  · calc tokenize (u ++ d ++ (e ++ v))
        = tokenize (u ++ (d ++ e ++ v)) := by simp
      _ = tokenize u ++ tokenize (d ++ e ++ v) := tokenize_append_of_getLast hu _
      _ = tokenize u ++ .number (d ++ e) :: tokenize v := by
          rw [tokenize_numeral_append hde hv]

/-! ## The characters that tokens keep -/

/-- **A character belongs to a token if it is a digit or a token by itself.** -/
theorem Token.mem_characters_iff {c : Char} :
    c ∈ characters ↔ c.isDigit = true ∨ (ofSymbol? c).isSome = true := by
  constructor
  · have hall : characters.all (fun c => c.isDigit || (ofSymbol? c).isSome) = true := by decide
    intro hc
    exact Bool.or_eq_true_iff.mp (List.all_eq_true.mp hall c hc)
  · rintro (hc | hc)
    · have hall : ∀ n ∈ List.range' 48 10, Char.ofNat n ∈ characters := by decide
      have hn := Text.isDigit_iff_toNat.mp hc
      rw [← Char.ofNat_toNat c]
      exact hall _ (List.mem_range'_1.mpr (by omega))
    · unfold ofSymbol? at hc
      split at hc
      · decide
      · decide
      · cases ho : Operator.ofSymbol? c with
        | none => simp [ho] at hc
        | some o =>
          obtain rfl := Operator.ofSymbol?_eq_some_iff.mp ho
          cases o <;> decide

/-- The token that one character writes has it for a text. -/
theorem Token.text_of_ofSymbol? {c : Char} {t : Token} (h : ofSymbol? c = some t) :
    t.text = [c] := by
  unfold ofSymbol? at h
  split at h
  · cases h
    rfl
  · cases h
    rfl
  · obtain ⟨o, ho, rfl⟩ := Option.map_eq_some_iff.mp h
    rw [Operator.ofSymbol?_eq_some_iff.mp ho]
    rfl

/-- **The tokens of a text keep its characters**, those that tokens are made
of. -/
theorem flatMap_text_tokenize (s : Text) :
    (tokenize s).flatMap Token.text = s.filter (· ∈ Token.characters) := by
  have hscan (s : Text) : (tokenize s).flatMap Token.text
      = (Scan.ofText s).run ++ (Scan.ofText s).rest.flatMap Token.text := by
    rw [tokenize, Scan.tokens]
    split
    · next h => simp [List.isEmpty_iff.mp h]
    · rfl
  induction s with
  | nil => rfl
  | cons c s ih =>
    cases hc : c.isDigit with
    | true =>
      have hmem : c ∈ Token.characters := Token.mem_characters_iff.mpr (.inl hc)
      rw [List.filter_cons_of_pos (by simpa using hmem), ← ih, hscan, hscan, Scan.ofText_cons,
        Scan.push, if_pos hc]
      rfl
    | false =>
      rw [tokenize_cons_of_not_isDigit hc, List.flatMap_append, ih]
      cases hsymbol : Token.ofSymbol? c with
      | none =>
        have hmem : c ∉ Token.characters := by simp [Token.mem_characters_iff, hc, hsymbol]
        rw [List.filter_cons_of_neg (by simpa using hmem)]
        rfl
      | some t =>
        have hmem : c ∈ Token.characters := by simp [Token.mem_characters_iff, hsymbol]
        rw [List.filter_cons_of_pos (by simpa using hmem)]
        simp [Token.text_of_ofSymbol? hsymbol]

/-- **A text without tokens has none of their characters.** -/
theorem tokenize_eq_nil_iff {s : Text} :
    tokenize s = [] ↔ ∀ c ∈ s, c ∉ Token.characters := by
  have hfilter : s.filter (· ∈ Token.characters) = [] ↔ ∀ c ∈ s, c ∉ Token.characters := by
    simp [List.filter_eq_nil_iff]
  rw [← hfilter, ← flatMap_text_tokenize, List.flatMap_eq_nil_iff]
  constructor
  · intro h t ht
    simp [h] at ht
  · intro h
    refine List.eq_nil_iff_forall_not_mem.mpr fun t ht => ?_
    have htext := h t ht
    cases t with
    | number digits =>
      exact (Decimal.isNumeral_iff.mp (isNumeral_of_number_mem_tokenize ht)).1 htext
    | _ => cases htext

/-- **Cutting goes along with putting texts side by side, but for the number in
which they meet.**

Consequently every number is a nonempty run of digits, the tokens one behind
the other are the text without the characters that no token is made of, and
such a character may come or go anywhere but between two digits. -/
theorem tokenize_concatenation :
    (∀ s t, Text.MeetInNumber s t →
        ∃ ts d e us, tokenize s = ts ++ [.number d] ∧ tokenize t = .number e :: us
          ∧ tokenize (s ++ t) = ts ++ .number (d ++ e) :: us)
      ∧ (∀ s t, ¬ Text.MeetInNumber s t → tokenize (s ++ t) = tokenize s ++ tokenize t)
      ∧ (∀ s d, .number d ∈ tokenize s → d ≠ [] ∧ ∀ c ∈ d, c.isDigit = true)
      ∧ (∀ s, (tokenize s).flatMap Token.text = s.filter (· ∈ Token.characters))
      ∧ ∀ s c t, c ∉ Token.characters → ¬ Text.MeetInNumber s t →
        tokenize (s ++ c :: t) = tokenize (s ++ t) := by
  refine ⟨fun s t => exists_tokenize_append_of_meet, fun s t => tokenize_append_of_not_meet,
    fun s d hd => Decimal.isNumeral_iff.mp (isNumeral_of_number_mem_tokenize hd),
    flatMap_text_tokenize, fun s c t hc hst => ?_⟩
  rw [Token.mem_characters_iff, not_or, Bool.not_eq_true, Bool.not_eq_true,
    Option.isSome_eq_false_iff, Option.isNone_iff_eq_none] at hc
  exact tokenize_append_cons_of_ignored hc.1 hc.2 (Text.not_meetInNumber_iff.mp hst)

/-- `(12` and `3)` meet in a number, `4+` and `5` do not, and a letter
between `4` and `+5` makes no difference. -/
theorem tokenize_concatenation_number :
    (∃ ts d e us, tokenize ['(', '1', '2'] = ts ++ [.number d]
        ∧ tokenize ['3', ')'] = .number e :: us
        ∧ tokenize ['(', '1', '2', '3', ')'] = ts ++ .number (d ++ e) :: us)
      ∧ tokenize ['4', '+', '5'] = tokenize ['4', '+'] ++ tokenize ['5']
      ∧ (['1', '2'] ≠ [] ∧ ∀ c ∈ ['1', '2'], c.isDigit = true)
      ∧ tokenize ['4', 'x', '+', '5'] = tokenize ['4', '+', '5'] :=
  ⟨tokenize_concatenation.1 ['(', '1', '2'] ['3', ')'] (by decide),
    tokenize_concatenation.2.1 ['4', '+'] ['5'] (by decide),
    tokenize_concatenation.2.2.1 ['(', '1', '2'] ['1', '2'] (by decide),
    tokenize_concatenation.2.2.2.2 ['4'] 'x' ['+', '5'] (by decide) (by decide)⟩

end IntegerCalculator
