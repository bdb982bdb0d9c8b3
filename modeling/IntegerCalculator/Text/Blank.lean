import IntegerCalculator.Text.CharRanges

/-!
# White space

A character is **blank** when it has the property White_Space: the controls
from tab to carriage return, next line, and every space and line separator.
The zero-width space is not one of them. `trim` cuts the blanks off both ends
of a text; it is what turns an entry into a line of the history.
-/

namespace IntegerCalculator.Text

/-- The ranges of white-space code points. -/
def blankRanges : CharRanges :=
  [(0x9, 0xd), (0x20, 0x20), (0x85, 0x85), (0xa0, 0xa0), (0x1680, 0x1680),
    (0x2000, 0x200a), (0x2028, 0x2029), (0x202f, 0x202f), (0x205f, 0x205f),
    (0x3000, 0x3000)]

/-- Whether a character is white space. -/
def isBlank (c : Char) : Bool := blankRanges.contains c

/-- **The text between its outer blanks.** -/
def trim (t : Text) : Text :=
  ((t.dropWhile isBlank).reverse.dropWhile isBlank).reverse

/-- The space is a blank. -/
@[simp] theorem isBlank_space : isBlank ' ' = true := by decide

/-- No digit is a blank. -/
theorem isBlank_eq_false_of_isDigit {c : Char} (h : c.isDigit = true) :
    isBlank c = false := by
  have hc := isDigit_iff_toNat.mp h
  simp [isBlank, blankRanges, CharRanges.contains]
  omega

/-- A text without outer blanks is its own trim. -/
theorem trim_eq_self {t : Text} (hd : ∀ c ∈ t.head?, isBlank c = false)
    (hl : ∀ c ∈ t.getLast?, isBlank c = false) : trim t = t := by
  have h₁ : t.dropWhile isBlank = t := by
    cases t with
    | nil => rfl
    | cons c t => simp [hd c (by simp)]
  have h₂ : t.reverse.dropWhile isBlank = t.reverse := by
    cases h : t.reverse with
    | nil => rfl
    | cons c r =>
      have : t.getLast? = some c := by rw [List.getLast?_eq_head?_reverse, h]; rfl
      simp [hl c (by simp [this])]
  rw [trim, h₁, h₂, List.reverse_reverse]

/-- What is left of a text when the blanks in front are dropped begins with
none. -/
theorem isBlank_of_head?_dropWhile {t : Text} {c : Char}
    (h : c ∈ (t.dropWhile isBlank).head?) : isBlank c = false := by
  have hhead := List.head?_dropWhile_not isBlank t
  rw [Option.mem_def.mp h] at hhead
  simpa using hhead

/-- **No blank is left at either end.** -/
@[simp] theorem trim_trim (t : Text) : trim (trim t) = trim t := by
  refine trim_eq_self (fun c hc => ?_) fun c hc => ?_
  · -- the cut at the end leaves the front as it is, or nothing at all
    have hprefix : trim t <+: t.dropWhile isBlank := by
      rw [trim, ← List.reverse_suffix, List.reverse_reverse]
      exact List.dropWhile_suffix isBlank
    obtain ⟨u, hu⟩ := hprefix
    refine isBlank_of_head?_dropWhile (t := t) ?_
    rw [← hu, List.head?_append, Option.mem_def.mp hc]
    rfl
  · rw [trim, List.getLast?_reverse] at hc
    exact isBlank_of_head?_dropWhile hc

end IntegerCalculator.Text
