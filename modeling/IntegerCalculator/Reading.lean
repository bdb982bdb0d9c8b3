import IntegerCalculator.Level.Basic
import IntegerCalculator.Token

/-!
# Reading tokens

A **reading** is how far the tokens have been understood: the items of the
level being read and, for each parenthesis still open, the items of the level
that it interrupted. An opening parenthesis sets the current level aside and
starts an empty one; a closing parenthesis folds the current level into a tree,
which becomes one operand of the level set aside last. Groups may be nested as
deep as memory allows.

The first error met from left to right ends the reading. At the end of the
tokens an open parenthesis is the error, whatever else is wrong on the levels
left open; otherwise the outermost level is folded.
-/

namespace IntegerCalculator

/-- **How far the tokens are read.** Items are listed the last one first, and
so are the levels set aside. -/
structure Reading where
  /-- The level being read. -/
  current : List Item
  /-- The levels that an open parenthesis interrupted. -/
  suspended : List (List Item)

namespace Reading

/-- Nothing is read yet. -/
def start : Reading := ⟨[], []⟩

/-- One more item on the current level. -/
def add (r : Reading) (i : Item) : Reading := ⟨i :: r.current, r.suspended⟩

/-- The current level, from left to right. -/
def level (r : Reading) : Level := r.current.reverse

/-- **One more token.** -/
def read (r : Reading) : Token → Except CalcError Reading
  | .number digits => (Tree.ofDigits digits).map fun t => r.add (.operand t)
  | .operator op => .ok (r.add (.operator op))
  | .openParen => .ok ⟨[], r.current :: r.suspended⟩
  | .closeParen =>
    match r.suspended with
    | [] => .error .unbalancedParentheses
    | outer :: suspended =>
      r.level.toTree.map fun t => ⟨.operand t :: outer, suspended⟩

/-- Several tokens, up to the first error. -/
def readAll (r : Reading) (ts : List Token) : Except CalcError Reading :=
  ts.foldlM read r

/-- **The end of the tokens**: no parenthesis may be open. -/
def finish (r : Reading) : Except CalcError Tree :=
  match r.suspended with
  | [] => r.level.toTree
  | _ :: _ => .error .unbalancedParentheses

@[simp] theorem readAll_nil (r : Reading) : r.readAll [] = .ok r := rfl

theorem readAll_cons (r : Reading) (t : Token) (ts : List Token) :
    r.readAll (t :: ts) = r.read t >>= fun r => r.readAll ts := by
  simp [readAll]

/-- **Reading goes on where it stopped.** -/
theorem readAll_append (r : Reading) (ts us : List Token) :
    r.readAll (ts ++ us) = r.readAll ts >>= fun r => r.readAll us := by
  simp [readAll]

end Reading

/-- **The tree of a list of tokens.** No token at all is an error of its
own. -/
def Tree.parse (ts : List Token) : Except CalcError Tree :=
  if ts.isEmpty then .error .emptyInput
  else Reading.start.readAll ts >>= Reading.finish

@[simp] theorem Tree.parse_nil : Tree.parse [] = .error .emptyInput := rfl

theorem Tree.parse_of_ne_nil {ts : List Token} (h : ts ≠ []) :
    Tree.parse ts = Reading.start.readAll ts >>= Reading.finish := by
  simp [Tree.parse, h]

end IntegerCalculator
