import IntegerCalculator.Text.Blank
import IntegerCalculator.Token

/-!
# Cutting a text from its front

The scan goes from the end of a text to its front, so what a character in front
of a text adds to the tokens depends on the text only if both can be part of
one number. A symbol is a token of its own, a space is none, and a run of
digits is one number unless a digit follows it (`tokenize_numeral_append`).

Two texts side by side are cut apart unless a number goes across the place where
they meet (`tokenize_append_of_head`, `tokenize_append_of_getLast`). So a
character that writes nothing can be put anywhere but between two digits
(`tokenize_append_cons_of_ignored`), or dropped at the ends of a text
(`tokenize_dropWhile`, `tokenize_reverse_dropWhile`); and tokens on a line are cut
out of it again (`tokenize_line`), provided that their numbers are such as the cut
makes.
-/

namespace IntegerCalculator

namespace Scan

/-- A text that begins with no digit leaves no run open. -/
theorem ofText_of_head {t : Text} (h : ∀ c ∈ t.head?, c.isDigit = false) :
    ofText t = ⟨[], tokenize t⟩ := by
  cases t with
  | nil => rfl
  | cons c t =>
    have hc : c.isDigit = false := h c rfl
    rw [ofText_cons, push, if_neg (by simp [hc]), tokenize_cons_of_not_isDigit hc]
    rfl

/-- Digits in front of a text lengthen its open run. -/
theorem ofText_digits_append {d : Text} (hd : ∀ c ∈ d, c.isDigit = true) (t : Text) :
    ofText (d ++ t) = ⟨d ++ (ofText t).run, (ofText t).rest⟩ := by
  induction d with
  | nil => rfl
  | cons c d ih =>
    have hc : c.isDigit = true := hd c List.mem_cons_self
    rw [List.cons_append, ofText_cons, ih fun x hx => hd x (List.mem_cons_of_mem c hx),
      push, if_pos hc, List.cons_append]

end Scan

/-- **A numeral in front of a text is one number**, unless the text begins with
a digit. -/
theorem tokenize_numeral_append {d t : Text} (hd : Decimal.isNumeral d = true)
    (ht : ∀ c ∈ t.head?, c.isDigit = false) :
    tokenize (d ++ t) = .number d :: tokenize t := by
  obtain ⟨hne, hdigits⟩ := Decimal.isNumeral_iff.mp hd
  rw [tokenize, Scan.ofText_digits_append hdigits, Scan.ofText_of_head ht, List.append_nil,
    Scan.tokens, if_neg (by simpa using hne)]

@[simp] theorem tokenize_operator_cons (o : Operator) (t : Text) :
    tokenize (o.symbol :: t) = .operator o :: tokenize t := by
  rw [tokenize_cons_of_not_isDigit o.isDigit_symbol]
  cases o <;> rfl

@[simp] theorem tokenize_openParen_cons (t : Text) :
    tokenize ('(' :: t) = .openParen :: tokenize t :=
  tokenize_cons_of_not_isDigit (by decide) t

@[simp] theorem tokenize_closeParen_cons (t : Text) :
    tokenize (')' :: t) = .closeParen :: tokenize t :=
  tokenize_cons_of_not_isDigit (by decide) t

@[simp] theorem tokenize_space_cons (t : Text) : tokenize (' ' :: t) = tokenize t :=
  tokenize_cons_of_not_isDigit (by decide) t

/-! ## Two texts side by side -/

/-- A text with such a character in front begins with no digit. -/
theorem isDigit_head?_cons {c : Char} (hc : c.isDigit = false) (t : Text) :
    ∀ d ∈ (c :: t).head?, d.isDigit = false := by
  intro d hd
  cases hd
  exact hc

/-- Behind a text, one that begins with no digit only adds its tokens. -/
theorem Scan.ofText_append (s : Text) {t : Text} (ht : ∀ c ∈ t.head?, c.isDigit = false) :
    ofText (s ++ t) = ⟨(ofText s).run, (ofText s).rest ++ tokenize t⟩ := by
  induction s with
  | nil => exact ofText_of_head ht
  | cons c s ih =>
    rw [List.cons_append, ofText_cons, ih, ofText_cons, push, push]
    split
    · rfl
    · simp only [tokens, List.append_assoc]
      split <;> rfl

/-- **Two texts are cut apart if the second begins with no digit.** -/
theorem tokenize_append_of_head (s : Text) {t : Text}
    (ht : ∀ c ∈ t.head?, c.isDigit = false) :
    tokenize (s ++ t) = tokenize s ++ tokenize t := by
  rw [tokenize, Scan.ofText_append s ht, Scan.tokens]
  show _ = (Scan.ofText s).tokens ++ tokenize t
  rw [Scan.tokens]
  split <;> rfl

/-- **Two texts are cut apart if the first ends with no digit.** -/
theorem tokenize_append_of_getLast {s : Text} (hs : ∀ c ∈ s.getLast?, c.isDigit = false)
    (t : Text) : tokenize (s ++ t) = tokenize s ++ tokenize t := by
  rcases List.eq_nil_or_concat s with rfl | ⟨s, c, rfl⟩
  · rfl
  · have hc : c.isDigit = false := hs c (by simp)
    rw [List.concat_eq_append]
    calc tokenize (s ++ [c] ++ t)
        = tokenize (s ++ c :: t) := by simp
      _ = tokenize s ++ tokenize (c :: t) :=
          tokenize_append_of_head s (isDigit_head?_cons hc t)
      _ = tokenize s ++ (tokenize [c] ++ tokenize t) := by
          rw [tokenize_cons_of_not_isDigit hc, tokenize_cons_of_not_isDigit hc]
          simp
      _ = tokenize (s ++ [c]) ++ tokenize t := by
          rw [tokenize_append_of_head s (isDigit_head?_cons hc []), List.append_assoc]

/-- What stands behind a text may be exchanged for something with the same tokens,
and so may the text, unless a digit is where they meet. -/
theorem tokenize_append_congr {s t u v : Text} (hst : tokenize s = tokenize t)
    (huv : tokenize u = tokenize v) (hu : ∀ c ∈ u.head?, c.isDigit = false)
    (hv : ∀ c ∈ v.head?, c.isDigit = false) : tokenize (s ++ u) = tokenize (t ++ v) := by
  rw [tokenize_append_of_head s hu, tokenize_append_of_head t hv, hst, huv]

/-! ## Characters that write nothing -/

section

variable {c : Char} (hdigit : c.isDigit = false) (hsymbol : Token.ofSymbol? c = none)

include hdigit hsymbol

/-- A character that writes nothing adds nothing to the text behind it. -/
theorem tokenize_cons_of_ignored (t : Text) : tokenize (c :: t) = tokenize t := by
  rw [tokenize_cons_of_not_isDigit hdigit, hsymbol]
  rfl

/-- **A character that writes nothing may stand anywhere but between two
digits.** -/
theorem tokenize_append_cons_of_ignored {s t : Text}
    (h : (∀ d ∈ s.getLast?, d.isDigit = false) ∨ ∀ d ∈ t.head?, d.isDigit = false) :
    tokenize (s ++ c :: t) = tokenize (s ++ t) := by
  rw [tokenize_append_of_head s (isDigit_head?_cons hdigit t),
    tokenize_cons_of_ignored hdigit hsymbol]
  rcases h with h | h
  · exact (tokenize_append_of_getLast h t).symm
  · exact (tokenize_append_of_head s h).symm

end

/-- No blank writes a token. -/
theorem Token.ofSymbol?_eq_none_of_isBlank {c : Char} (h : Text.isBlank c = true) :
    ofSymbol? c = none := by
  unfold ofSymbol?
  split
  · exact absurd h (by decide)
  · exact absurd h (by decide)
  · cases ho : Operator.ofSymbol? c with
    | none => rfl
    | some o =>
      obtain rfl := Operator.ofSymbol?_eq_some_iff.mp ho
      exact absurd h (by cases o <;> decide)

/-- A blank is no digit. -/
theorem isDigit_eq_false_of_isBlank {c : Char} (h : Text.isBlank c = true) :
    c.isDigit = false := by
  cases hc : c.isDigit with
  | false => rfl
  | true =>
    rw [Text.isBlank_eq_false_of_isDigit hc] at h
    cases h

section

variable {p : Char → Bool}
  (hp : ∀ c, p c = true → c.isDigit = false ∧ Token.ofSymbol? c = none)

include hp

/-- Characters that write nothing may be dropped in front of a text. -/
theorem tokenize_dropWhile (t : Text) : tokenize (t.dropWhile p) = tokenize t := by
  induction t with
  | nil => rfl
  | cons c t ih =>
    rw [List.dropWhile_cons]
    split
    · next hc => rw [ih, tokenize_cons_of_ignored (hp c hc).1 (hp c hc).2]
    · rfl

/-- **Characters that write nothing may be dropped at the end of a text.** -/
theorem tokenize_reverse_dropWhile (t : Text) :
    tokenize (t.dropWhile p).reverse = tokenize t.reverse := by
  induction t with
  | nil => rfl
  | cons c t ih =>
    rw [List.dropWhile_cons]
    split
    · next hc =>
      rw [ih, List.reverse_cons, tokenize_append_cons_of_ignored (hp c hc).1 (hp c hc).2
        (.inr (by simp)), List.append_nil]
    · rfl

end

/-- **Trimming a text leaves its tokens as they are.** -/
@[simp] theorem tokenize_trim (t : Text) : tokenize t.trim = tokenize t := by
  have hblank : ∀ c, Text.isBlank c = true → c.isDigit = false ∧ Token.ofSymbol? c = none :=
    fun c hc => ⟨isDigit_eq_false_of_isBlank hc, Token.ofSymbol?_eq_none_of_isBlank hc⟩
  rw [Text.trim, tokenize_reverse_dropWhile hblank, List.reverse_reverse,
    tokenize_dropWhile hblank]

/-- **The spaces at the end of a text write no token.** -/
@[simp] theorem tokenize_withoutTrailingSpaces (t : Text) :
    tokenize t.withoutTrailingSpaces = tokenize t := by
  have hspace : ∀ c, (c == ' ') = true → c.isDigit = false ∧ Token.ofSymbol? c = none := by
    intro c hc
    rw [eq_of_beq hc]
    decide
  rw [Text.withoutTrailingSpaces, tokenize_reverse_dropWhile hspace, List.reverse_reverse]

/-! ## Tokens on a line -/

theorem Token.line_singleton (t : Token) : line [t] = t.text :=
  List.intercalate_singleton

theorem Token.line_cons_cons (t u : Token) (ts : List Token) :
    line (t :: u :: ts) = t.text ++ ' ' :: line (u :: ts) := by
  simp [line, List.intercalate_cons_cons]

/-- The text of a token is cut into that token, unless a digit follows it. -/
theorem tokenize_text_append {t : Token} (ht : ∀ d, t = .number d → Decimal.isNumeral d = true)
    {s : Text} (hs : ∀ c ∈ s.head?, c.isDigit = false) :
    tokenize (t.text ++ s) = t :: tokenize s := by
  cases t with
  | number d => exact tokenize_numeral_append (ht d rfl) hs
  | operator o => exact tokenize_operator_cons o s
  | openParen => exact tokenize_openParen_cons s
  | closeParen => exact tokenize_closeParen_cons s

/-- **Tokens on a line are cut out of it again**, if their numbers are
numerals. -/
theorem tokenize_line {ts : List Token}
    (h : ∀ d, .number d ∈ ts → Decimal.isNumeral d = true) :
    tokenize (Token.line ts) = ts := by
  induction ts with
  | nil => rfl
  | cons t ts ih =>
    have ht : ∀ d, t = .number d → Decimal.isNumeral d = true := by
      rintro d rfl
      exact h d List.mem_cons_self
    have ih := ih fun d hd => h d (List.mem_cons_of_mem t hd)
    cases ts with
    | nil =>
      have := tokenize_text_append ht (s := []) (by simp)
      rwa [List.append_nil, ← Token.line_singleton] at this
    | cons u ts =>
      rw [Token.line_cons_cons, tokenize_text_append ht (isDigit_head?_cons (by decide) _),
        tokenize_space_cons, ih]

/-- **A line is cut into its tokens exactly when their numbers are numerals.**
The space between two numbers in a row keeps them apart; and a number that is
no numeral is not found again, for the cut makes numerals only. -/
theorem tokenize_line_eq_iff (ts : List Token) :
    tokenize (Token.line ts) = ts
      ↔ ∀ d, .number d ∈ ts → d ≠ [] ∧ ∀ c ∈ d, c.isDigit = true := by
  simp only [← Decimal.isNumeral_iff]
  constructor
  · intro h d hd
    rw [← h] at hd
    exact isNumeral_of_number_mem_tokenize hd
  · exact tokenize_line

end IntegerCalculator
