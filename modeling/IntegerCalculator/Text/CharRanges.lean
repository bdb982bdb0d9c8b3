import IntegerCalculator.Text.Basic

/-!
# Sets of characters as ranges of code points

The properties of characters that the calculator consults – white space,
what extends a grapheme, what has no printed shape – are published as closed
ranges of code points. `CharRanges` is such a list of ranges and `contains`
asks whether a character lies in one of them.
-/

namespace IntegerCalculator

/-- Closed ranges of code points: first and last of each. -/
abbrev CharRanges := List (Nat × Nat)

namespace CharRanges

/-- Whether the code point of `c` lies in one of the ranges. -/
def contains (rs : CharRanges) (c : Char) : Bool :=
  rs.any fun r => decide (r.1 ≤ c.toNat) && decide (c.toNat ≤ r.2)

end CharRanges

end IntegerCalculator
