import IntegerCalculator.Proofs.Folding
import IntegerCalculator.Tree.Value

/-!
# The two stacks of an evaluation

An evaluation keeps the work of many levels of a tree on its two stacks at once.
What lies below the tree that is being valued is nevertheless determined by
where that tree stands (`Tree.Awaits`): going down to the left leaves the right
tree and the operator to do, going down to the right leaves the operator to do
and the value of the left tree to use. So whenever an operator is next, the two
values on top are those of its own left and right tree, the right one first,
and whenever nothing is left to do, the value of the whole tree is alone
(`Tree.Reaches.fits`).

The recursive value is therefore what the stacks compute
(`Tree.evaluate_two_stacks`). Whether it exists is a matter of the subtrees
alone: there is none exactly when some quotient in the tree has a divisor that
is worth zero (`Tree.value_eq_divisionByZero_iff`), whichever of several such
quotients is met first.
-/

namespace IntegerCalculator

/-- Only a quotient by zero has no value. -/
theorem Operator.apply_eq_error_iff {op : Operator} {a b : Int} {e : CalcError} :
    op.apply a b = .error e ↔ op = .div ∧ b = 0 ∧ e = .divisionByZero := by
  cases op with
  | div =>
    by_cases hb : b = 0
    · simp [apply, hb, eq_comm]
    · simp [apply, hb]
  | _ => simp [apply]

namespace Tree

/-! ## Trees without a value -/

section

variable {l r t : Tree} {o : Operator} {e : CalcError}

/-- A tree has no value only because of a division by zero. -/
theorem eq_divisionByZero_of_value (h : t.value = .error e) : e = .divisionByZero := by
  induction t generalizing e with
  | leaf n => cases h
  | node l o r hl hr =>
    rw [value_node_eq] at h
    obtain hlv | ⟨a, -, h⟩ := eq_error_or_of_bind_eq_error h
    · exact hl hlv
    obtain hrv | ⟨b, -, h⟩ := eq_error_or_of_bind_eq_error h
    · exact hr hrv
    exact (Operator.apply_eq_error_iff.mp h).2.2

/-- The value of a node whose operands have values. -/
theorem value_node {a b : Int} (hl : l.value = .ok a) (hr : r.value = .ok b)
    (o : Operator) : (node l o r).value = o.apply a b := by
  rw [value_node_eq, hl, hr]
  rfl

/-- Without a value on the left there is none. -/
theorem value_node_of_left (h : l.value = .error e) :
    (node l o r).value = .error .divisionByZero := by
  rw [value_node_eq, h, eq_divisionByZero_of_value h]
  rfl

/-- Without a value on the right there is none either, whatever the left is. -/
theorem value_node_of_right (h : r.value = .error e) :
    (node l o r).value = .error .divisionByZero := by
  cases hl : l.value with
  | error e' => exact value_node_of_left hl
  | ok a =>
    rw [value_node_eq, hl, h, eq_divisionByZero_of_value h]
    rfl

end

/-- **The subtrees**, the tree itself first. -/
def subtrees : Tree → List Tree
  | leaf n => [leaf n]
  | node l op r => node l op r :: (l.subtrees ++ r.subtrees)

theorem self_mem_subtrees (t : Tree) : t ∈ t.subtrees := by
  cases t <;> exact List.mem_cons_self

/-- Both sides of a node that stands in a tree stand in it too. -/
theorem mem_subtrees_of_node {t l r : Tree} {o : Operator} (h : node l o r ∈ t.subtrees) :
    l ∈ t.subtrees ∧ r ∈ t.subtrees := by
  induction t with
  | leaf n => cases List.mem_singleton.mp h
  | node l' o' r' ihl ihr =>
    obtain h | h := List.mem_cons.mp h
    · cases h
      exact ⟨List.mem_cons_of_mem _ (List.mem_append_left _ l.self_mem_subtrees),
        List.mem_cons_of_mem _ (List.mem_append_right _ r.self_mem_subtrees)⟩
    · obtain h | h := List.mem_append.mp h
      · exact (ihl h).imp (fun h => List.mem_cons_of_mem _ (List.mem_append_left _ h))
          fun h => List.mem_cons_of_mem _ (List.mem_append_left _ h)
      · exact (ihr h).imp (fun h => List.mem_cons_of_mem _ (List.mem_append_right _ h))
          fun h => List.mem_cons_of_mem _ (List.mem_append_right _ h)

/-- A subtree without a value leaves the tree without one. -/
theorem value_of_mem_subtrees {s t : Tree} {e : CalcError} (h : s ∈ t.subtrees)
    (hs : s.value = .error e) : t.value = .error .divisionByZero := by
  induction t with
  | leaf n =>
    obtain rfl := List.mem_singleton.mp h
    cases hs
  | node l o r ihl ihr =>
    obtain rfl | h := List.mem_cons.mp h
    · rw [hs, eq_divisionByZero_of_value hs]
    · obtain h | h := List.mem_append.mp h
      · exact value_node_of_left (ihl h)
      · exact value_node_of_right (ihr h)

/-- **A tree has no value exactly when it divides by zero somewhere**: some
quotient in it has a divisor that is worth zero. -/
theorem value_eq_divisionByZero_iff {t : Tree} :
    t.value = .error .divisionByZero
      ↔ ∃ l r, node l .div r ∈ t.subtrees ∧ r.value = .ok 0 := by
  constructor
  · intro h
    induction t with
    | leaf n => cases h
    | node l o r ihl ihr =>
      cases hl : l.value with
      | error e =>
        rw [eq_divisionByZero_of_value hl] at hl
        obtain ⟨l', r', hmem, hr'⟩ := ihl hl
        exact ⟨l', r', List.mem_cons_of_mem _ (List.mem_append_left _ hmem), hr'⟩
      | ok a =>
        cases hr : r.value with
        | error e =>
          rw [eq_divisionByZero_of_value hr] at hr
          obtain ⟨l', r', hmem, hr'⟩ := ihr hr
          exact ⟨l', r', List.mem_cons_of_mem _ (List.mem_append_right _ hmem), hr'⟩
        | ok b =>
          rw [value_node hl hr] at h
          obtain ⟨rfl, rfl, -⟩ := Operator.apply_eq_error_iff.mp h
          exact ⟨l, r, self_mem_subtrees _, hr⟩
  · rintro ⟨l, r, hmem, hr⟩
    have hnode : ∃ e, (node l .div r).value = .error e := by
      cases hl : l.value with
      | error e => exact ⟨_, value_node_of_left hl⟩
      | ok a => exact ⟨_, (value_node hl hr .div).trans
        (Operator.apply_eq_error_iff.mpr ⟨rfl, rfl, rfl⟩)⟩
    obtain ⟨e, he⟩ := hnode
    exact value_of_mem_subtrees hmem he

/-! ## What an evaluation comes to -/

/-- **The tasks and the values that the evaluation of `t` comes to.** A leaf is
put on the values, a node makes way for its two trees and its operator, and an
operator takes two values and leaves one. -/
inductive Reaches (t : Tree) : List Task → List Int → Prop
  | start : Reaches t [.value t] []
  | leaf {n : Int} {ts : List Task} {vs : List Int} :
      Reaches t (.value (.leaf n) :: ts) vs → Reaches t ts (n :: vs)
  | node {l r : Tree} {op : Operator} {ts : List Task} {vs : List Int} :
      Reaches t (.value (.node l op r) :: ts) vs →
        Reaches t (.value l :: .value r :: .apply op :: ts) vs
  | apply {op : Operator} {ts : List Task} {a b v : Int} {vs : List Int} :
      Reaches t (.apply op :: ts) (b :: a :: vs) → op.apply a b = .ok v →
        Reaches t ts (v :: vs)

/-- **The evaluation goes on from everything that it comes to**, with the answer
that it has in the end. -/
theorem Reaches.run_eq {t : Tree} {ts : List Task} {vs : List Int} (h : t.Reaches ts vs) :
    run ts vs = run [.value t] [] := by
  induction h with
  | start => rfl
  | leaf h ih => rw [← ih, run]
  | node h ih => rw [← ih, run]
  | apply h hv ih =>
    rw [← ih, run, hv]

/-- **What waits while a subtree is being valued**: the tasks and the values that
lie below it on the stacks. -/
inductive Awaits (t : Tree) : Tree → List Task → List Int → Prop
  | root : Awaits t t [] []
  | left {l r : Tree} {op : Operator} {ts : List Task} {vs : List Int} :
      Awaits t (.node l op r) ts vs → Awaits t l (.value r :: .apply op :: ts) vs
  | right {l r : Tree} {op : Operator} {ts : List Task} {vs : List Int} {a : Int} :
      Awaits t (.node l op r) ts vs → l.value = .ok a →
        Awaits t r (.apply op :: ts) (a :: vs)

namespace Awaits

variable {t s r : Tree} {ts : List Task} {vs : List Int}

theorem mem_subtrees (h : t.Awaits s ts vs) : s ∈ t.subtrees := by
  induction h with
  | root => exact t.self_mem_subtrees
  | left h ih => exact (mem_subtrees_of_node ih).1
  | right h ha ih => exact (mem_subtrees_of_node ih).2

/-- Once the left tree has its value, the right one is next. -/
theorem next {v : Int} (h : t.Awaits s (.value r :: ts) vs) (hv : s.value = .ok v) :
    t.Awaits r ts (v :: vs) := by
  cases h with
  | left h => exact .right h hv

end Awaits

/-- **The stacks as they may stand between two steps**: a subtree is about to be
valued, or its value has just been found. -/
inductive Fits (t : Tree) : List Task → List Int → Prop
  | before {s : Tree} {ts : List Task} {vs : List Int} :
      t.Awaits s ts vs → Fits t (.value s :: ts) vs
  | after {s : Tree} {ts : List Task} {vs : List Int} {v : Int} :
      t.Awaits s ts vs → s.value = .ok v → Fits t ts (v :: vs)

namespace Fits

variable {t s : Tree} {op : Operator} {ts : List Task} {vs : List Int}

/-- A tree to be valued stands in its place. -/
theorem awaits (h : t.Fits (.value s :: ts) vs) : t.Awaits s ts vs := by
  cases h with
  | before h => exact h
  | after h hv => exact h.next hv

/-- **An operator that is next finds the values of its own two trees**, the right
one on top. -/
theorem exists_node (h : t.Fits (.apply op :: ts) vs) :
    ∃ l r a b ws, vs = b :: a :: ws ∧ t.Awaits (node l op r) ts ws
      ∧ l.value = .ok a ∧ r.value = .ok b := by
  cases h with
  | after h hb =>
    cases h with
    | right h ha => exact ⟨_, _, _, _, _, rfl, h, ha, hb⟩

/-- **With nothing left to do there is one value**, that of the tree. -/
theorem exists_single (h : t.Fits [] vs) : ∃ v, vs = [v] ∧ t.value = .ok v := by
  cases h with
  | after h hv =>
    cases h with
    | root => exact ⟨_, rfl, hv⟩

end Fits

/-- **Every step keeps the stacks fitting**, so they always fit. -/
theorem Reaches.fits {t : Tree} {ts : List Task} {vs : List Int} (h : t.Reaches ts vs) :
    t.Fits ts vs := by
  induction h with
  | start => exact .before .root
  | leaf h ih => exact .after ih.awaits rfl
  | node h ih => exact .before (.left ih.awaits)
  | apply h hv ih =>
    obtain ⟨l, r, a, b, ws, heq, hnode, ha, hb⟩ := ih.exists_node
    cases heq
    exact .after hnode ((value_node ha hb _).trans hv)

/-- **The two stacks compute the value of the tree.**

On the way, an operator that is next always finds the values of its own left
and right tree on top, in this order, and at the end there is one value. There
is no value exactly when some quotient in the tree has a divisor that is worth
zero, and then the answer says so: there is no other error. -/
theorem evaluate_two_stacks (t : Tree) :
    t.evaluate = t.value
      ∧ run [.value t] [] = some (t.value.map fun v => [v])
      ∧ (∀ ts vs, t.Reaches ts vs → run ts vs = run [.value t] [])
      ∧ (∀ op ts vs, t.Reaches (.apply op :: ts) vs →
        ∃ l r a b ws, node l op r ∈ t.subtrees ∧ t.Awaits (node l op r) ts ws
          ∧ vs = b :: a :: ws ∧ l.value = .ok a ∧ r.value = .ok b)
      ∧ (∀ vs, t.Reaches [] vs → ∃ v, vs = [v] ∧ t.value = .ok v)
      ∧ (t.evaluate = .error .divisionByZero
        ↔ ∃ l r, node l .div r ∈ t.subtrees ∧ r.evaluate = .ok 0)
      ∧ ∀ e, t.evaluate = .error e → e = .divisionByZero := by
  refine ⟨evaluate_eq_value t, run_single t, fun ts vs h => h.run_eq, fun op ts vs h => ?_,
    fun vs h => h.fits.exists_single, ?_, fun e h => ?_⟩
  · obtain ⟨l, r, a, b, ws, heq, hnode, ha, hb⟩ := h.fits.exists_node
    exact ⟨l, r, a, b, ws, hnode.mem_subtrees, hnode, heq, ha, hb⟩
  · simp only [evaluate_eq_value]
    exact value_eq_divisionByZero_iff
  · rw [evaluate_eq_value] at h
    exact eq_divisionByZero_of_value h

/-- In `(2 - 9) / (2 * 3 - 4)` the quotient finds `2` above `-7` and is `-3`; in
`(2 - 9) / (2 * 3 - 6)` it finds a zero there, and the evaluation has no value. -/
theorem evaluate_two_stacks_zero :
    (node (node (leaf 2) .sub (leaf 9)) .div
        (node (node (leaf 2) .mul (leaf 3)) .sub (leaf 4))).evaluate = .ok (-3)
      ∧ (∃ l r a b ws,
          node l .div r ∈ (node (node (leaf 2) .sub (leaf 9)) .div
            (node (node (leaf 2) .mul (leaf 3)) .sub (leaf 6))).subtrees
          ∧ [0, -7] = b :: a :: ws ∧ l.value = .ok a ∧ r.value = .ok b)
      ∧ (node (node (leaf 2) .sub (leaf 9)) .div
          (node (node (leaf 2) .mul (leaf 3)) .sub (leaf 6))).evaluate
        = .error .divisionByZero := by
  let t : Tree := node (node (leaf 2) .sub (leaf 9)) .div
    (node (node (leaf 2) .mul (leaf 3)) .sub (leaf 6))
  have hvalue := (evaluate_two_stacks (node (node (leaf 2) .sub (leaf 9)) .div
    (node (node (leaf 2) .mul (leaf 3)) .sub (leaf 4)))).1
  obtain ⟨-, -, -, hoperator, -, hzero, -⟩ := evaluate_two_stacks t
  have hdividend : t.Reaches
      [.value (node (node (leaf 2) .mul (leaf 3)) .sub (leaf 6)), .apply .div] [-7] :=
    .apply (.leaf (.leaf (.node (.node .start)))) rfl
  have hproduct : t.Reaches [.value (leaf 6), .apply .sub, .apply .div] [6, -7] :=
    .apply (.leaf (.leaf (.node (.node hdividend)))) rfl
  have hquotient : t.Reaches [.apply .div] [0, -7] := .apply (.leaf hproduct) rfl
  obtain ⟨l, r, a, b, ws, hmem, -, heq, ha, hb⟩ := hoperator _ _ _ hquotient
  refine ⟨hvalue, ⟨l, r, a, b, ws, hmem, heq, ha, hb⟩, hzero.mpr ?_⟩
  exact ⟨_, _, self_mem_subtrees t, evaluate_eq_value _⟩

end Tree

end IntegerCalculator
