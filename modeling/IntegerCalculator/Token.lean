import IntegerCalculator.Error
import IntegerCalculator.Text.Decimal

/-!
# Tokens

A text is cut into **tokens**: numbers, operators and parentheses. Cutting
never fails. A maximal run of the digits `0` to `9` is one number, kept as it
was written; each operator or parenthesis is a token; every other character is
dropped, but it does end the run of digits before it, so `12a34` holds two
numbers.

The cut is a fold from the end of the text. Reading backwards, what is already
known of the rest is `Scan`: the digits the rest begins with, which the
character before may still lengthen, and the tokens after those digits.

`Token.line` writes tokens on a line, a space between neighbours.
-/

namespace IntegerCalculator

/-- A token. A number is kept as the text that writes it. -/
inductive Token where
  | number (digits : Text)
  | operator (op : Operator)
  | openParen
  | closeParen
  deriving DecidableEq

namespace Token

/-- The token that one character writes by itself, if it writes one. -/
def ofSymbol? : Char → Option Token
  | '(' => some openParen
  | ')' => some closeParen
  | c => (Operator.ofSymbol? c).map operator

/-- The characters of a token. -/
def text : Token → Text
  | number digits => digits
  | operator op => [op.symbol]
  | openParen => ['(']
  | closeParen => [')']

/-- **Tokens on a line**, a space between neighbours. -/
def line (ts : List Token) : Text := List.intercalate [' '] (ts.map text)

end Token

/-- **A text cut into tokens, its first digits left open**: the digits it
begins with and the tokens after them. -/
structure Scan where
  run : Text
  rest : List Token

namespace Scan

/-- The scan of the empty text. -/
def empty : Scan := ⟨[], []⟩

/-- The tokens of the text: its first digits, if any, are a number. -/
def tokens (s : Scan) : List Token :=
  if s.run.isEmpty then s.rest else .number s.run :: s.rest

/-- **One more character in front.** A digit lengthens the run, any other
character ends it. -/
def push (c : Char) (s : Scan) : Scan :=
  if c.isDigit then ⟨c :: s.run, s.rest⟩
  else ⟨[], (Token.ofSymbol? c).toList ++ s.tokens⟩

/-- The scan of a text. -/
def ofText (t : Text) : Scan := t.foldr push empty

@[simp] theorem ofText_nil : ofText [] = empty := rfl

@[simp] theorem ofText_cons (c : Char) (t : Text) :
    ofText (c :: t) = (ofText t).push c := rfl

@[simp] theorem tokens_empty : empty.tokens = [] := rfl

/-- The run holds digits only. -/
theorem isDigit_of_mem_run_ofText {t : Text} {c : Char}
    (h : c ∈ (ofText t).run) : c.isDigit = true := by
  induction t with
  | nil => simp [empty] at h
  | cons d t ih =>
    simp only [ofText_cons, push] at h
    split at h
    · rcases List.mem_cons.mp h with rfl | h
      · assumption
      · exact ih h
    · simp at h

end Scan

/-- **The tokens of a text.** -/
def tokenize (t : Text) : List Token := (Scan.ofText t).tokens

@[simp] theorem tokenize_nil : tokenize [] = [] := rfl

/-- A character that is no digit stands apart from what follows it. -/
theorem tokenize_cons_of_not_isDigit {c : Char} (h : c.isDigit = false) (t : Text) :
    tokenize (c :: t) = (Token.ofSymbol? c).toList ++ tokenize t := by
  simp [tokenize, Scan.push, h, Scan.tokens]

/-- **Every number of a text is a numeral.** -/
theorem isNumeral_of_number_mem_tokenize {t d : Text}
    (h : Token.number d ∈ tokenize t) : Decimal.isNumeral d = true := by
  induction t generalizing d with
  | nil => simp at h
  | cons c t ih =>
    cases hc : c.isDigit with
    | false =>
      rw [tokenize_cons_of_not_isDigit hc, List.mem_append, Option.mem_toList] at h
      rcases h with h | h
      · unfold Token.ofSymbol? at h
        split at h <;> simp at h
      · exact ih h
    | true =>
      simp only [tokenize, Scan.ofText_cons, Scan.push, hc, if_true, Scan.tokens,
        List.isEmpty_cons, Bool.false_eq_true, if_false, List.mem_cons,
        Token.number.injEq] at h
      rcases h with rfl | h
      · refine Decimal.isNumeral_iff.mpr ⟨by simp, fun x hx => ?_⟩
        rcases List.mem_cons.mp hx with rfl | hx
        · exact hc
        · exact Scan.isDigit_of_mem_run_ofText hx
      · refine ih ?_
        unfold tokenize Scan.tokens
        split
        · exact h
        · exact List.mem_cons_of_mem _ h

end IntegerCalculator
