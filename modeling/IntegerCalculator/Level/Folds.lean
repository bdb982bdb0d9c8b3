import IntegerCalculator.Level.Basic

/-!
# The folds of a level

A **fold** is one operator taking its two operands. An observer of the passes
over a level sees the folds one by one: which operator, and at which position
of the pass's output the new node is put. A pass that fails shows the folds it
made before it failed, and the passes after it show none.
-/

namespace IntegerCalculator

/-- **One fold.** `position` is the number of items that stand before the new
node when it is made. -/
structure Fold where
  op : Operator
  position : Nat
  deriving DecidableEq

namespace Level

/-- **The folds of a pass under way**, behind those already `done` (the last
one first). Of the items put out, only their number counts and whether the
last of them is an operand. -/
def passFoldsFrom (op : Operator) (done : List Fold) :
    Nat → Bool → Level → List Fold
  | _, _, [] => done.reverse
  | n, _, .operand _ :: rest => passFoldsFrom op done (n + 1) true rest
  | n, ready, .operator o :: rest =>
    if o = op then
      match ready, rest with
      | true, .operand _ :: rest => passFoldsFrom op (⟨op, n - 1⟩ :: done) n true rest
      | _, _ => done.reverse
    else passFoldsFrom op done (n + 1) false rest

theorem passFoldsFrom_operand (op : Operator) (done : List Fold) (n : Nat) (ready : Bool)
    (t : Tree) (rest : Level) :
    passFoldsFrom op done n ready (.operand t :: rest) = passFoldsFrom op done (n + 1) true rest :=
  rfl

/-- **A fold is noted** where the node replaces its left operand. -/
theorem passFoldsFrom_fold (op : Operator) (done : List Fold) (n : Nat) (r : Tree)
    (rest : Level) :
    passFoldsFrom op done (n + 1) true (.operator op :: .operand r :: rest)
      = passFoldsFrom op (⟨op, n⟩ :: done) (n + 1) true rest := by
  simp [passFoldsFrom]

theorem passFoldsFrom_operator_of_ne {op o : Operator} (h : o ≠ op) (done : List Fold)
    (n : Nat) (ready : Bool) (rest : Level) :
    passFoldsFrom op done n ready (.operator o :: rest)
      = passFoldsFrom op done (n + 1) false rest := by
  rw [passFoldsFrom.eq_def]
  simp [h]

/-- The folds of one pass. -/
def passFolds (op : Operator) (level : Level) : List Fold :=
  passFoldsFrom op [] 0 false level

/-- The folds of the given passes, up to the first one that fails. -/
def foldsOfPasses : List Operator → Level → List Fold
  | [], _ => []
  | op :: ops, level =>
    passFolds op level ++
      match pass op level with
      | .ok level => foldsOfPasses ops level
      | .error _ => []

/-- **The folds of a level**, in the order in which they are made. -/
def folds (level : Level) : List Fold := foldsOfPasses Operator.passOrder level

end Level

end IntegerCalculator
