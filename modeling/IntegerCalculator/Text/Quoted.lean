import IntegerCalculator.Text.GraphemeExtend
import IntegerCalculator.Text.Unprintable

/-!
# Quoted texts

A **quoted** text stands between double quotes, and no character of it can be
mistaken or go unseen. The quote and the backslash are escaped, four controls
have short names, and a character that would not show on its own – one
without a printed shape, or one that combines with the character before it –
is written by its code point in hexadecimal. Every other character stands for
itself, the apostrophe and the letters of all scripts included.
-/

namespace IntegerCalculator.Text

/-- The code point of a character in braces, in lower-case hexadecimal. -/
def codePointEscape (c : Char) : Text :=
  ['\\', 'u', '{'] ++ Nat.toDigits 16 c.toNat ++ ['}']

/-- **How one character is written between quotes.** -/
def escape (c : Char) : Text :=
  match c with
  | '\x00' => ['\\', '0']
  | '\t' => ['\\', 't']
  | '\n' => ['\\', 'n']
  | '\r' => ['\\', 'r']
  | '\\' => ['\\', '\\']
  | '\"' => ['\\', '\"']
  | c => if isCombining c || isUnprintable c then codePointEscape c else [c]

/-- **The text between double quotes**, each character escaped as it needs. -/
def quoted (t : Text) : Text := '\"' :: (t.flatMap escape ++ ['\"'])

end IntegerCalculator.Text
