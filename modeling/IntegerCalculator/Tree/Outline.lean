import IntegerCalculator.Tree.Basic

/-!
# A tree as an indented outline

The outline of a tree has one line per node, in **preorder** – a node, then
its left tree, then its right tree – and two spaces of indentation per level
below the root. It is cut after `lineLimit` lines, and a cut outline ends with
the number of nodes it hides.

`preorder` lists the entries of a tree by recursion. `entries` lists them with
a stack of the subtrees still to visit (`entries_eq_preorder`), and the outline
reads that list.
-/

namespace IntegerCalculator.Tree

/-- What a node is labelled with: its operator, or its number. -/
inductive Label where
  | operator (op : Operator)
  | number (value : Int)
  deriving DecidableEq

/-- The text of a label. -/
def Label.text : Label → Text
  | .operator op => [op.symbol]
  | .number n => Decimal.ofInt n

/-- **A node of a tree as the outline sees it**: how far below the root it
stands, and its label. -/
structure Entry where
  depth : Nat
  label : Label
  deriving DecidableEq

/-- The line of an entry: two spaces per level, then the label. -/
def Entry.line (e : Entry) : Text :=
  List.replicate (2 * e.depth) ' ' ++ e.label.text

/-- **The nodes of a tree in preorder**, the root `depth` levels down. -/
def preorder (depth : Nat) : Tree → List Entry
  | leaf n => [⟨depth, .number n⟩]
  | node l op r =>
    ⟨depth, .operator op⟩ :: (l.preorder (depth + 1) ++ r.preorder (depth + 1))

/-- Visits the trees on the stack in turn, each with its depth. `done` holds
the entries met so far, the last one first. -/
def visit : List (Nat × Tree) → List Entry → List Entry
  | [], done => done.reverse
  | (d, leaf n) :: rest, done => visit rest (⟨d, .number n⟩ :: done)
  | (d, node l op r) :: rest, done =>
    visit ((d + 1, l) :: (d + 1, r) :: rest) (⟨d, .operator op⟩ :: done)
termination_by ts => pending (fun p => p.2.size) ts
decreasing_by all_goals simp only [pending, size]; omega

/-- The entries of a tree, its root at depth 0. -/
def entries (t : Tree) : List Entry := visit [(0, t)] []

/-! ## The outline -/

/-- The most lines an outline shows. -/
def lineLimit : Nat := 200

/-- The last line of an outline that hides `n` nodes. -/
def hiddenLine (n : Nat) : Text :=
  '…' :: ' ' :: '(' :: (Decimal.ofNat n ++ " noeuds non affichés)".toList)

/-- **The lines of the outline**: the first entries, then the count of the
hidden ones if there are any. -/
def outlineLines (t : Tree) : List Text :=
  let es := t.entries
  let hidden := (es.drop lineLimit).length
  (es.take lineLimit).map Entry.line ++ if hidden = 0 then [] else [hiddenLine hidden]

/-- The outline of a tree. -/
def outline (t : Tree) : Text := Text.lines t.outlineLines

/-! ## The walk and the recursion -/

@[simp] theorem length_preorder (d : Nat) (t : Tree) :
    (t.preorder d).length = t.size := by
  induction t generalizing d with
  | leaf _ => rfl
  | node l op r hl hr => simp [preorder, size, hl, hr]

/-- The visit goes through the trees of the stack one after the other. -/
theorem visit_eq (ts : List (Nat × Tree)) (done : List Entry) :
    visit ts done = done.reverse ++ ts.flatMap fun p => p.2.preorder p.1 := by
  fun_induction visit ts done with
  | case1 done => simp
  | case2 d n rest done ih => simp [ih, preorder]
  | case3 d l op r rest done ih => simp [ih, preorder]

/-- **The walk lists the nodes in preorder.** -/
theorem entries_eq_preorder (t : Tree) : t.entries = t.preorder 0 := by
  simp [entries, visit_eq]

end IntegerCalculator.Tree
