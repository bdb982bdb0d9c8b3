import IntegerCalculator.Calculation
import IntegerCalculator.Text.Blank

/-!
# The state of the calculator window

A **window** holds the entry being written, the last result, an error message,
the explanation of the result, the history of past calculations, whether the
entry field has the keyboard, whether it asks for it, and which of its two
panels are open. An empty result, error or explanation stands for none.

The operations below are those behind the buttons. Each of them asks for the
keyboard, so that one can go on typing.
-/

namespace IntegerCalculator

/-- A past calculation: what was entered and what it gave. -/
structure Calculation where
  entry : Text
  result : Text
  deriving DecidableEq

/-- **The calculator window.** It opens asking for the keyboard, with the
explanation shown and the history folded away. -/
structure Window where
  /-- The text in the entry field. -/
  entry : Text := []
  /-- The last result, in decimal. -/
  result : Text := []
  /-- The message of the last evaluation, if it failed. -/
  error : Text := []
  /-- How the result came about. -/
  explanation : Explanation := {}
  /-- The past calculations, the newest first. -/
  history : List Calculation := []
  /-- Whether the entry field asks for the keyboard. -/
  wantsFocus : Bool := true
  /-- Whether the entry field has the keyboard. -/
  focused : Bool := false
  /-- Whether the explanation is shown. -/
  explanationOpen : Bool := true
  /-- Whether the history is shown. -/
  historyOpen : Bool := false
  deriving DecidableEq

namespace Window

/-- How many past calculations are kept. -/
def historyLimit : Nat := 12

/-- The window as it opens. -/
def fresh : Window := {}

/-- Empties the entry and nothing else. -/
def clearEntry (w : Window) : Window :=
  { w with entry := [], wantsFocus := true }

/-- Empties the result, the error and the explanation, and keeps the entry and
the history. -/
def clearResults (w : Window) : Window :=
  { w with result := [], error := [], explanation := {}, wantsFocus := true }

/-- Empties everything, the history included. -/
def reset (w : Window) : Window :=
  { w.clearResults with entry := [], history := [] }

/-- **Shows an error.** The last result stays, but it is no longer
explained. -/
def fail (w : Window) (message : Text) : Window :=
  { w with error := message, explanation := {}, wantsFocus := true }

/-- **Shows a result** and puts it, with the trimmed entry, in front of the
history, which forgets what exceeds its limit. -/
def deposit (w : Window) (result : Text) (explanation : Explanation) : Window :=
  { w with
    error := []
    result := result
    explanation := explanation
    history := (⟨w.entry.trim, result⟩ :: w.history).take historyLimit
    wantsFocus := true }

/-- **Brings back the entry of a past calculation**, counted from the newest.
If there is none of that number the entry stays. -/
def restore (w : Window) (i : Nat) : Window :=
  match w.history[i]? with
  | some c => { w with entry := c.entry, wantsFocus := true }
  | none => { w with wantsFocus := true }

/-- **Evaluates the entry**: its value is deposited with its explanation, or
its error is shown. -/
def evaluate (w : Window) : Window :=
  match explain w.entry with
  | .ok (v, e) => w.deposit (Decimal.ofInt v) e
  | .error e => w.fail e.message

@[simp] theorem entry_evaluate (w : Window) : w.evaluate.entry = w.entry := by
  unfold evaluate
  split <;> rfl

@[simp] theorem wantsFocus_evaluate (w : Window) : w.evaluate.wantsFocus = true := by
  unfold evaluate
  split <;> rfl

@[simp] theorem wantsFocus_restore (w : Window) (i : Nat) :
    (w.restore i).wantsFocus = true := by
  unfold restore
  split <;> rfl

end Window

end IntegerCalculator
