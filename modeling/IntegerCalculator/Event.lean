import IntegerCalculator.Calculation
import IntegerCalculator.Level.Folds

/-!
# What an observer sees of a calculation

A calculation is silent; an **event** is what an observer who follows it notes
down. The tokens are counted. While they are read, each level shows its folds
when it is closed, and a parenthesis that closes nothing is noted before it
ends the reading. A finished tree shows its number of levels and a finished
reduction its value.
-/

namespace IntegerCalculator

/-- Something an observer notes. -/
inductive Event where
  /-- The text is cut into so many tokens. -/
  | tokenized (count : Nat)
  /-- The token at this index closes a parenthesis that was never opened. -/
  | strayClose (index : Nat)
  /-- An operator took its operands. -/
  | folded (fold : Fold)
  /-- The tree is built, with so many levels. -/
  | built (levels : Nat)
  /-- The tree is reduced to a value. -/
  | reduced (value : Int)
  deriving DecidableEq

namespace Reading

/-- **What the next token shows**, the reading being at the token of this
index. -/
def observe (r : Reading) (index : Nat) : Token → List Event
  | .closeParen =>
    match r.suspended with
    | [] => [.strayClose index]
    | _ :: _ => r.level.folds.map .folded
  | _ => []

/-- **What the end of the tokens shows**: the folds of the outermost level,
unless a parenthesis is open. -/
def observeEnd (r : Reading) : List Event :=
  match r.suspended with
  | [] => r.level.folds.map .folded
  | _ :: _ => []

/-- **What the rest of the tokens shows**, behind what is already noted
(`done`, the last event first). -/
def observeAll (r : Reading) (index : Nat) (done : List Event) : List Token → List Event
  | [] => (r.observeEnd.reverseAux done).reverse
  | t :: ts =>
    let done := (r.observe index t).reverseAux done
    match r.read t with
    | .ok r => r.observeAll (index + 1) done ts
    | .error _ => done.reverse

end Reading

/-- What building and reducing the tree of the tokens shows. -/
def Tree.observe (tree : Tree) : List Event :=
  .built tree.levels ::
    match tree.evaluate with
    | .ok v => [.reduced v]
    | .error _ => []

/-- **The events of a calculation**, in order. -/
def events (t : Text) : List Event :=
  let ts := tokenize t
  .tokenized ts.length :: (Reading.start.observeAll 0 [] ts ++
    match Tree.parse ts with
    | .ok tree => tree.observe
    | .error _ => [])

end IntegerCalculator
