import IntegerCalculator.Tree.Basic

/-!
# A tree on one line

`parenthesised` writes a tree by recursion, a pair of parentheses around every
operator: `((4 * 5) - 6)`. A leaf is its decimal text, a minus sign included.

`render` writes the same text (`render_eq_parenthesised`) from its last
character to its first. What is still to be written waits on a stack of
pieces, the last piece of the line on top, and each piece goes in front of what
is written already.
-/

namespace IntegerCalculator.Tree

/-- **The line of a tree**, every operator between parentheses. -/
def parenthesised : Tree → Text
  | leaf n => Decimal.ofInt n
  | node l op r =>
    '(' :: (l.parenthesised ++ ' ' :: op.symbol :: ' ' :: (r.parenthesised ++ [')']))

/-- A piece of the line still to be written. -/
inductive Piece where
  | tree (t : Tree)
  | operator (op : Operator)
  | openParen

/-- Three for each node of a tree, one for a mark: a piece always outweighs
the pieces that replace it. -/
def Piece.weight : Piece → Nat
  | .tree t => 3 * t.size
  | .operator _ => 1
  | .openParen => 1

/-- **Writes the pieces in front of `line`**, the last piece first. -/
def write : List Piece → Text → Text
  | [], line => line
  | .tree (leaf n) :: ps, line => write ps (Decimal.ofInt n ++ line)
  | .tree (node l op r) :: ps, line =>
    write (.tree r :: .operator op :: .tree l :: .openParen :: ps) (')' :: line)
  | .operator op :: ps, line => write ps (' ' :: op.symbol :: ' ' :: line)
  | .openParen :: ps, line => write ps ('(' :: line)
termination_by ps => pending Piece.weight ps
decreasing_by all_goals simp only [pending, Piece.weight, size]; omega

/-- The line of a tree. -/
def render (t : Tree) : Text := write [.tree t] []

/-- A tree among the pieces writes its line. -/
theorem write_tree (t : Tree) (ps : List Piece) (line : Text) :
    write (.tree t :: ps) line = write ps (t.parenthesised ++ line) := by
  induction t generalizing ps line with
  | leaf n => rw [write, parenthesised]
  | node l op r hl hr =>
    rw [write, hr, write, hl, write, parenthesised]
    simp

/-- **The pieces compose the line of the recursion.** -/
theorem render_eq_parenthesised (t : Tree) : t.render = t.parenthesised := by
  rw [render, write_tree, write, List.append_nil]

end IntegerCalculator.Tree
