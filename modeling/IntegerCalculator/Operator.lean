/-!
# Operators

The four operators of integer arithmetic, the characters that write them and
the fixed order in which the passes over a level fold them: all products,
then all quotients, then all sums, then all differences.
-/

namespace IntegerCalculator

/-- A binary operator. -/
inductive Operator where
  | add
  | sub
  | mul
  | div
  deriving DecidableEq

namespace Operator

/-- The character that writes an operator. -/
def symbol : Operator → Char
  | add => '+'
  | sub => '-'
  | mul => '*'
  | div => '/'

/-- The operator a character writes, if it writes one. -/
def ofSymbol? : Char → Option Operator
  | '+' => some add
  | '-' => some sub
  | '*' => some mul
  | '/' => some div
  | _ => none

/-- **The order of the passes.** Two operators that conventional arithmetic
ranks together are still apart here: a product is folded before any quotient
and a sum before any difference, wherever they stand. -/
def passOrder : List Operator := [mul, div, add, sub]

/-- The place of an operator in the order of the passes, from 0. -/
def passRank : Operator → Nat
  | mul => 0
  | div => 1
  | add => 2
  | sub => 3

@[simp] theorem ofSymbol?_symbol (o : Operator) : ofSymbol? o.symbol = some o := by
  cases o <;> rfl

/-- A character writes an operator only if it is its symbol. -/
theorem ofSymbol?_eq_some_iff {c : Char} {o : Operator} :
    ofSymbol? c = some o ↔ c = o.symbol := by
  constructor
  · intro h
    unfold ofSymbol? at h
    split at h <;> cases h <;> rfl
  · rintro rfl
    exact ofSymbol?_symbol o

theorem symbol_injective {o p : Operator} (h : o.symbol = p.symbol) : o = p := by
  have := ofSymbol?_symbol o
  rw [h, ofSymbol?_symbol] at this
  exact (Option.some.inj this).symm

/-- No operator is a digit. -/
@[simp] theorem isDigit_symbol (o : Operator) : o.symbol.isDigit = false := by
  cases o <;> decide

/-- **The rank is the place in the order.** -/
theorem getElem?_passOrder_passRank (o : Operator) :
    passOrder[o.passRank]? = some o := by
  cases o <;> rfl

theorem passRank_injective {o p : Operator} (h : o.passRank = p.passRank) : o = p := by
  have := getElem?_passOrder_passRank o
  rw [h, getElem?_passOrder_passRank] at this
  exact (Option.some.inj this).symm

/-- Every operator has its pass. -/
theorem mem_passOrder (o : Operator) : o ∈ passOrder := by
  cases o <;> decide

end Operator

end IntegerCalculator
