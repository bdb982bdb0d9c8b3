/-!
# Texts

A **text** is the list of its characters. Everything the calculator reads or
shows is a text, so what is said about texts is said with the lists of the
library: concatenation, filtering, reversal.

`withoutTrailingSpaces` is the one cut the keypad rules and the entry field
share, and `lines` puts lines under each other.
-/

namespace IntegerCalculator

/-- A text: its characters in reading order. -/
abbrev Text := List Char

namespace Text

/-- **The text less the spaces it ends with.** Only the space character
counts: a tab or a no-break space at the end is kept, and so is all that
stands before it.

This is Mathlib's `List.rdropWhile (· == ' ')`, unfolded because the modules
that run import nothing but core; the proofs go on with the library's lemmas
(`withoutTrailingSpaces_eq_rdropWhile`). -/
def withoutTrailingSpaces (t : Text) : Text :=
  (t.reverse.dropWhile (· == ' ')).reverse

/-- The given lines, one under the other. -/
def lines (ls : List Text) : Text := List.intercalate ['\n'] ls

/-- **Lines under each other are told apart by the breaks between them**, if no
line holds one. -/
theorem lines_injective {ls ms : List Text} (hls : ∀ l ∈ ls, '\n' ∉ l)
    (hms : ∀ l ∈ ms, '\n' ∉ l) (hl : ls ≠ []) (hm : ms ≠ []) (h : lines ls = lines ms) :
    ls = ms := by
  calc ls = (lines ls).splitOn '\n' := (List.splitOn_intercalate '\n' hls hl).symm
    _ = (lines ms).splitOn '\n' := by rw [h]
    _ = ms := List.splitOn_intercalate '\n' hms hm

/-- The digits `0` to `9` are the code points 48 to 57. -/
theorem isDigit_iff_toNat {c : Char} :
    c.isDigit = true ↔ 48 ≤ c.toNat ∧ c.toNat ≤ 57 := by
  simp [Char.isDigit, UInt32.le_iff_toNat_le]

end Text

end IntegerCalculator
