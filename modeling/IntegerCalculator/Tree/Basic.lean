import IntegerCalculator.Error
import IntegerCalculator.Text.Decimal

/-!
# Trees

An arithmetic **tree** is a number or an operator between two trees.
Parentheses are not part of it: they only decide its shape.

A chain `a + b + c + …` makes a tree as deep as it has terms, so nothing that
runs on a tree may descend by plain recursion: it keeps the subtrees still to
visit on a stack of its own and ends because their total `size` shrinks. Beside
each such walk stands the plain recursion that says what it computes, and the
equation between the two.

Here are the type, its sizes, the tree of a run of digits, the number of levels
(`levels_eq_height`), and the comparison of two trees (`same_iff_eq`).
-/

namespace IntegerCalculator

/-- **A tree**: an exact integer, or an operator between two trees. -/
inductive Tree where
  | leaf (value : Int)
  | node (left : Tree) (op : Operator) (right : Tree)
  deriving DecidableEq

namespace Tree

/-- The number of nodes, leaves included. -/
def size : Tree → Nat
  | leaf _ => 1
  | node l _ r => l.size + r.size + 1

/-- The number of leaves. -/
def leaves : Tree → Nat
  | leaf _ => 1
  | node l _ r => l.leaves + r.leaves

/-- The number of levels: a leaf has one. -/
def height : Tree → Nat
  | leaf _ => 1
  | node l _ r => max l.height r.height + 1

theorem size_pos (t : Tree) : 0 < t.size := by
  cases t <;> simp [size]

/-- **A binary tree has one leaf more than inner nodes.** -/
theorem size_eq_leaves (t : Tree) : t.size + 1 = 2 * t.leaves := by
  induction t with
  | leaf _ => rfl
  | node l _ r hl hr => simp only [size, leaves]; omega

/-- **The leaf that a text of digits writes.** Anything but a nonempty run of
the digits `0` to `9` is refused, with the text as it was given. -/
def ofDigits (t : Text) : Except CalcError Tree :=
  if Decimal.isNumeral t then .ok (leaf (Decimal.value t))
  else .error (.malformedNumber t)

theorem ofDigits_of_isNumeral {t : Text} (h : Decimal.isNumeral t = true) :
    ofDigits t = .ok (leaf (Decimal.value t)) := by
  simp [ofDigits, h]

/-- The weight of everything that waits on a stack. A walk ends because each
of its steps makes this number smaller. -/
def pending {α : Type} (weight : α → Nat) : List α → Nat
  | [] => 0
  | a :: rest => weight a + pending weight rest

/-! ## Levels

The trees still to visit wait on a stack, each with the level of its root. The
right tree of a node is visited before the left one, which does not matter for
the deepest level. -/

/-- **Visits the trees on the stack**, `deepest` being the deepest level met so
far. -/
def descend : List (Tree × Nat) → Nat → Nat
  | [], deepest => deepest
  | (leaf _, level) :: rest, deepest => descend rest (max deepest level)
  | (node l _ r, level) :: rest, deepest =>
    descend ((r, level + 1) :: (l, level + 1) :: rest) (max deepest level)
termination_by ts => pending (fun p => p.1.size) ts
decreasing_by all_goals simp only [pending, size]; omega

/-- **The number of levels**: the deepest one that is met, from the root at
level 1. -/
def levels (t : Tree) : Nat := descend [(t, 1)] 0

/-- A tree on the stack is as deep as it is high, counted from its root. -/
theorem descend_cons (t : Tree) (level deepest : Nat) (rest : List (Tree × Nat)) :
    descend ((t, level + 1) :: rest) deepest
      = descend rest (max deepest (level + t.height)) := by
  induction t generalizing level deepest rest with
  | leaf _ => rw [descend, height]
  | node l op r hl hr =>
    have hmax : max (max (max deepest (level + 1)) (level + 1 + r.height)) (level + 1 + l.height)
        = max deepest (level + (max l.height r.height + 1)) := by omega
    rw [descend, hr, hl, height, hmax]

/-- **The walk counts the levels of the recursion.** -/
theorem levels_eq_height (t : Tree) : t.levels = t.height := by
  rw [levels, descend_cons, descend, Nat.zero_add, Nat.zero_max]

/-! ## Comparison

Two trees are walked together; the pairs still to compare wait on a stack. -/

/-- Whether the two trees of every pair are the same. -/
def sameAll : List (Tree × Tree) → Bool
  | [] => true
  | (leaf a, leaf b) :: rest => a == b && sameAll rest
  | (node l o r, node l' o' r') :: rest =>
    o == o' && sameAll ((l, l') :: (r, r') :: rest)
  | (leaf _, node ..) :: _ => false
  | (node .., leaf _) :: _ => false
termination_by ps => pending (fun p => p.1.size) ps
decreasing_by all_goals simp only [pending, size]; omega

/-- Whether two trees are the same: the same shape, with the same operators
and the same leaves. -/
def same (a b : Tree) : Bool := sameAll [(a, b)]

theorem sameAll_iff (ps : List (Tree × Tree)) :
    sameAll ps = true ↔ ∀ p ∈ ps, p.1 = p.2 := by
  fun_induction sameAll ps with
  | case1 => simp
  | case2 a b rest ih => simp [ih]
  | case3 l o r l' o' r' rest ih => simp [ih, and_assoc, and_left_comm]
  | case4 => simp
  | case5 => simp

/-- **The comparison decides equality.** -/
theorem same_iff_eq {a b : Tree} : a.same b = true ↔ a = b := by
  simp [same, sameAll_iff]

end Tree

end IntegerCalculator
