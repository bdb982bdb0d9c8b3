import IntegerCalculator.Tree.Basic

/-!
# The value of a tree

`value` says by recursion what a tree is worth: a leaf is worth its number, a
node the sum, the difference, the product or the quotient of what its left tree
and its right tree are worth, in exact integers; a quotient is cut toward zero,
and there is none by zero. The four cases are written out there, so that what a
tree is worth does not rest on what an evaluation does with an operator.

`evaluate` is what runs. It keeps two stacks: the tasks still to do and the
values found so far. A tree to be valued is replaced by its left tree, its
right tree and its operator; an operator takes the last two values and leaves
one (`Operator.apply`), which is what a node is worth (`value_node_eq`).
`run_value` says that a tree on top of the tasks leaves exactly its value on
top of the values, whatever else waits; so no operator ever lacks an operand
and one value is left at the end (`run_single`).
-/

namespace IntegerCalculator

/-- **What an evaluation does with an operator** and the last two values. -/
def Operator.apply : Operator → Int → Int → Except CalcError Int
  | .add, a, b => .ok (a + b)
  | .sub, a, b => .ok (a - b)
  | .mul, a, b => .ok (a * b)
  | .div, a, b => if b = 0 then .error .divisionByZero else .ok (a.tdiv b)

namespace Tree

/-- **What a tree is worth**, in exact arithmetic. The quotient is cut toward
zero; there is none by zero. -/
def value : Tree → Except CalcError Int
  | leaf n => .ok n
  | node l op r => do
    let a ← l.value
    let b ← r.value
    match op with
    | .add => .ok (a + b)
    | .sub => .ok (a - b)
    | .mul => .ok (a * b)
    | .div => if b = 0 then .error .divisionByZero else .ok (a.tdiv b)

/-- **An evaluation does with an operator what the operator is worth** between
two trees. -/
theorem value_node_eq (l : Tree) (op : Operator) (r : Tree) :
    (node l op r).value = (do
      let a ← l.value
      let b ← r.value
      op.apply a b) := by
  cases op <;> rfl

/-- What is still to do: value a tree, or apply an operator to the last two
values. -/
inductive Task where
  | value (t : Tree)
  | apply (op : Operator)

/-- Twice the nodes of a tree, one for an operator: a task always outweighs
the tasks that replace it. -/
def Task.weight : Task → Nat
  | .value t => 2 * t.size
  | .apply _ => 1

/-- **Runs the tasks on the stack of values**, the last value first, and
answers the values left. There is no answer at all if an operator finds fewer
than two values. -/
def run : List Task → List Int → Option (Except CalcError (List Int))
  | [], vs => some (.ok vs)
  | .value (leaf n) :: ts, vs => run ts (n :: vs)
  | .value (node l op r) :: ts, vs =>
    run (.value l :: .value r :: .apply op :: ts) vs
  | .apply op :: ts, b :: a :: vs =>
    match op.apply a b with
    | .ok v => run ts (v :: vs)
    | .error e => some (.error e)
  | .apply _ :: _, _ => none
termination_by ts => pending Task.weight ts
decreasing_by all_goals simp only [pending, Task.weight, size]; omega

/-- **A tree among the tasks leaves its value**, or its error ends the run;
the tasks below and the values below are untouched. -/
theorem run_value (t : Tree) (ts : List Task) (vs : List Int) :
    run (.value t :: ts) vs =
      match t.value with
      | .ok v => run ts (v :: vs)
      | .error e => some (.error e) := by
  induction t generalizing ts vs with
  | leaf n => rw [run]; rfl
  | node l op r hl hr =>
    rw [run, hl, value_node_eq]
    cases l.value with
    | error e => rfl
    | ok a =>
      simp only [hr]
      cases r.value with
      | error e => rfl
      | ok b =>
        show run (.apply op :: ts) (b :: a :: vs) = _
        rw [run]
        rfl

/-- **One value is left at the end.** -/
theorem run_single (t : Tree) :
    run [.value t] [] = some (t.value.map fun v => [v]) := by
  rw [run_value]
  cases t.value with
  | error e => rfl
  | ok v =>
    show run [] [v] = _
    rw [run]
    rfl

/-- **The value of a tree, by tasks and values.** The run ends with one value
or with an error; by `run_single` it ends in no other way. -/
def evaluate (t : Tree) : Except CalcError Int :=
  match h : run [.value t] [] with
  | some (.ok [v]) => .ok v
  | some (.error e) => .error e
  | some (.ok []) | some (.ok (_ :: _ :: _)) | none =>
    absurd (run_single t) (by cases ht : t.value <;> simp [h, Except.map])

/-- **The two stacks compute the value.** -/
theorem evaluate_eq_value (t : Tree) : t.evaluate = t.value := by
  have hrun := run_single t
  unfold evaluate
  split
  case h_1 v h => cases ht : t.value <;> simp_all [Except.map]
  case h_2 e h => cases ht : t.value <;> simp_all [Except.map]
  all_goals
    exfalso
    cases ht : t.value <;> simp_all [Except.map]

end Tree

end IntegerCalculator
