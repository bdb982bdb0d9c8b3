import IntegerCalculator.Operator
import IntegerCalculator.Text.Blank

/-!
# The keypad

Sixteen keys type into the entry, and each kind of key has its own manner of
spacing, so that what is typed reads like `4 + (5 * 6)`. A digit is put down as
it is. An operator stands between two spaces, and takes the place of the
spaces the entry ends with. A closing parenthesis drops those spaces as well.
An opening parenthesis is set off by a space when it follows a number or a
closed group.

`deleteLast` takes back the last character that is not a space, with the
spaces around it.
-/

namespace IntegerCalculator

/-- A key of the keypad. -/
inductive Key where
  | digit (d : Fin 10)
  | operator (op : Operator)
  | openParen
  | closeParen
  deriving DecidableEq

namespace Key

/-- The character on a key. -/
def symbol : Key → Char
  | digit d => Nat.digitChar d
  | operator op => op.symbol
  | openParen => '('
  | closeParen => ')'

/-- The keys, row by row. -/
def rows : List (List Key) :=
  [[digit 7, digit 8, digit 9, operator .div],
    [digit 4, digit 5, digit 6, operator .mul],
    [digit 1, digit 2, digit 3, operator .sub],
    [openParen, digit 0, closeParen, operator .add]]

/-- No key writes a blank of any kind. -/
theorem isBlank_symbol (k : Key) : Text.isBlank k.symbol = false := by
  cases k with
  | digit d => revert d; decide
  | operator op => cases op <;> decide
  | openParen => decide
  | closeParen => decide

/-- No key writes a space. -/
theorem symbol_ne_space (k : Key) : k.symbol ≠ ' ' := by
  intro h
  have hblank := k.isBlank_symbol
  rw [h, Text.isBlank_space] at hblank
  cases hblank

/-- No operator is a digit. -/
@[simp] theorem isDigit_symbol_operator (op : Operator) :
    (operator op).symbol.isDigit = false :=
  op.isDigit_symbol

end Key

namespace Text

/-- Whether the last character that is no blank ends an operand: a digit or a
closing parenthesis. -/
def endsOperand (entry : Text) : Bool :=
  match entry.reverse.find? fun c => !isBlank c with
  | some c => c.isDigit || c == ')'
  | none => false

/-- A space at the end does not count. -/
@[simp] theorem endsOperand_append_space (t : Text) :
    endsOperand (t ++ [' ']) = endsOperand t := by
  simp [endsOperand]

/-- The last key decides. -/
@[simp] theorem endsOperand_append_symbol (t : Text) (k : Key) :
    endsOperand (t ++ [k.symbol]) = (k.symbol.isDigit || k.symbol == ')') := by
  simp [endsOperand, k.isBlank_symbol]

/-- **A key typed at the end of the entry.** -/
def typeKey (entry : Text) (k : Key) : Text :=
  match k with
  | .digit _ => entry ++ [k.symbol]
  | .operator _ =>
    let kept := entry.withoutTrailingSpaces
    if kept.isEmpty then [k.symbol, ' '] else kept ++ [' ', k.symbol, ' ']
  | .openParen => if entry.endsOperand then entry ++ [' ', k.symbol] else entry ++ [k.symbol]
  | .closeParen => entry.withoutTrailingSpaces ++ [k.symbol]

/-- **The last character that is no space taken back**, with the spaces before
and after it. -/
def deleteLast (entry : Text) : Text :=
  withoutTrailingSpaces entry.withoutTrailingSpaces.dropLast

end Text

end IntegerCalculator
