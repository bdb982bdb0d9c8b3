import IntegerCalculator.Tree.Basic

/-!
# One level of parentheses

A **level** is what stands directly between two parentheses, or outside all of
them: operators and operands, a closed group inside it counting as one operand.

A level becomes a tree in four **passes**, one per operator in the order of
`Operator.passOrder`. A pass reads the level from left to right and touches
its own operator alone: each occurrence takes the operand just before it and
the operand just after it and puts the node in their place, where the next
occurrence finds it as its left operand. So `8 - 3 - 2` leans to the left,
while `8 / 2 * 2` is `8 / (2 * 2)`: the product was folded in an earlier pass.

An occurrence without an operand on both sides ends everything with the error
`missingOperand`. What four passes leave are operands only, and `sole` accepts
exactly one.
-/

namespace IntegerCalculator

/-- What stands on a level: an operand already built, or an operator that no
pass has folded yet. -/
inductive Item where
  | operand (t : Tree)
  | operator (op : Operator)
  deriving DecidableEq

/-- The items of a level, from left to right. -/
abbrev Level := List Item

namespace Level

/-- **A pass under way.** The first list is what the pass has put out, the
last item first; the second is what it has still to read. -/
def passFrom (op : Operator) : List Item → Level → Except CalcError Level
  | out, [] => .ok out.reverse
  | out, .operand t :: rest => passFrom op (.operand t :: out) rest
  | out, .operator o :: rest =>
    if o = op then
      match out, rest with
      | .operand l :: out, .operand r :: rest =>
        passFrom op (.operand (.node l op r) :: out) rest
      | _, _ => .error (.missingOperand op)
    else passFrom op (.operator o :: out) rest

/-- **One pass**: every occurrence of `op` folded, from left to right. -/
def pass (op : Operator) (level : Level) : Except CalcError Level :=
  passFrom op [] level

/-- **The only operand of a level.** A level without any is an empty group, and
two that stand side by side lack an operator. -/
def sole : Level → Except CalcError Tree
  | [.operand t] => .ok t
  | [] => .error .emptyGroup
  | _ => .error .missingOperator

/-- **The tree of a level**: all passes in order, then its only operand. -/
def toTree (level : Level) : Except CalcError Tree :=
  Operator.passOrder.foldlM (fun items op => pass op items) level >>= sole

/-- **A group around one operand adds nothing.** -/
@[simp] theorem toTree_operand (t : Tree) : toTree [.operand t] = .ok t := rfl

theorem passFrom_operand (op : Operator) (out : List Item) (t : Tree) (rest : Level) :
    passFrom op out (.operand t :: rest) = passFrom op (.operand t :: out) rest := rfl

/-- **A fold**: the node takes the place of its operands and its operator. -/
theorem passFrom_fold (op : Operator) (out : List Item) (l r : Tree) (rest : Level) :
    passFrom op (.operand l :: out) (.operator op :: .operand r :: rest) =
      passFrom op (.operand (.node l op r) :: out) rest := by
  simp [passFrom]

/-- An operator of another pass is put out as it stands. -/
theorem passFrom_operator_of_ne {op o : Operator} (h : o ≠ op) (out : List Item)
    (rest : Level) :
    passFrom op out (.operator o :: rest) = passFrom op (.operator o :: out) rest := by
  rw [passFrom.eq_def]
  simp [h]

end Level

end IntegerCalculator
