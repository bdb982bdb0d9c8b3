import IntegerCalculator.Operator
import IntegerCalculator.Text.Quoted

/-!
# What can go wrong

`CalcError` lists the causes for which a text has no value, and `message` is
the one place where they are put into words.
-/

namespace IntegerCalculator

/-- Why there is no tree or no value. -/
inductive CalcError where
  /-- There is no token at all. -/
  | emptyInput
  /-- A parenthesis closes nothing, or one is never closed. -/
  | unbalancedParentheses
  /-- An operator lacks the operand before it or the one after it. -/
  | missingOperand (beside : Operator)
  /-- A level of parentheses holds nothing. -/
  | emptyGroup
  /-- Two operands follow each other. -/
  | missingOperator
  /-- A divisor is zero. -/
  | divisionByZero
  /-- A number is not a run of digits; the text is kept as it was given. -/
  | malformedNumber (text : Text)
  deriving DecidableEq

namespace CalcError

/-- **The words of an error.** -/
def message : CalcError → Text
  | emptyInput => "Entrée vide".toList
  | unbalancedParentheses => "parenthèses déséquilibrées".toList
  | missingOperand o => "opérande manquant autour de '".toList ++ [o.symbol, '\'']
  | emptyGroup => "opérande manquant autour de '('".toList
  | missingOperator => "opérateur manquant entre deux opérandes".toList
  | divisionByZero => "division par zéro".toList
  | malformedNumber t => "nombre invalide: ".toList ++ t.quoted

/-- **Every error has words**, so an error is never shown as an empty line. -/
theorem message_ne_nil (e : CalcError) : e.message ≠ [] := by
  have words {s : String} (h : s ≠ "") : s.toList ≠ [] :=
    mt String.toList_eq_nil_iff.mp h
  cases e with
  | missingOperand | malformedNumber =>
    exact List.append_ne_nil_of_left_ne_nil (words (by decide)) _
  | _ => exact words (by decide)

end CalcError

end IntegerCalculator
