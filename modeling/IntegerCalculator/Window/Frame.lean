import IntegerCalculator.Keypad
import IntegerCalculator.Window.State

/-!
# Frames and clicks

The window is drawn **frame** by frame, and a frame takes at most one input
from the keyboard. Who takes it depends on where the keyboard is, and that
changes within the frame:

1. the escape key is taken first; it empties the entry and takes the keyboard
   away from the entry field;
2. if the entry field has the keyboard, it edits its text; the enter key makes
   it let the keyboard go, and a line break typed by itself adds nothing, since
   the field holds one line;
3. if the entry field asks for the keyboard, it gets it;
4. if the entry field has the keyboard now, the enter key evaluates the entry
   and the backspace key drops the spaces the entry ends with.

So the enter key evaluates in those frames alone at whose start the field asks
for the keyboard. A click acts at the end of the frame it falls into and leaves
the keyboard where it is.

A **step** is what can happen to a window: an operation called from outside, a
frame with its input, or a click. A click falls into a frame of its own, after
one without any input that shows where the buttons are.
-/

namespace IntegerCalculator

/-- What the keyboard sends within a frame. -/
inductive Input where
  | idle
  | escape
  | enter
  | backspace
  | typed (t : Text)
  deriving DecidableEq

/-- A button of the window. -/
inductive Button where
  /-- Empties the entry. -/
  | clearEntry
  /-- Empties the results. -/
  | clearResults
  /-- Empties everything. -/
  | reset
  /-- Takes back the last character. -/
  | delete
  /-- A key of the keypad. -/
  | key (k : Key)
  /-- Evaluates the entry. -/
  | equals
  /-- Shows or hides the explanation. -/
  | explanation
  /-- Shows or hides the history. -/
  | history
  /-- Brings back a past calculation, counted from the newest. -/
  | past (i : Nat)
  deriving DecidableEq

namespace Window

/-- The escape key, before anything else. -/
def receive (w : Window) : Input → Window
  | .escape => { w with focused := false }.clearEntry
  | _ => w

/-- What the entry field adds to its text when `t` is typed: all of it, unless
it is a lone line break. -/
def typedText (t : Text) : Text :=
  if t = ['\n'] ∨ t = ['\r'] then [] else t

/-- The entry field edits its text, if it has the keyboard. -/
def edit (w : Window) (input : Input) : Window :=
  if w.focused then
    match input with
    | .enter => { w with focused := false }
    | .backspace => { w with entry := w.entry.dropLast }
    | .typed t => { w with entry := w.entry ++ typedText t }
    | _ => w
  else w

/-- The entry field gets the keyboard if it asks for it. -/
def grantFocus (w : Window) : Window :=
  if w.wantsFocus then { w with focused := true, wantsFocus := false } else w

/-- The enter and backspace keys, for the entry field that has the keyboard
now. -/
def answer (w : Window) (input : Input) : Window :=
  if w.focused then
    match input with
    | .enter => w.evaluate
    | .backspace => { w with entry := w.entry.withoutTrailingSpaces }
    | _ => w
  else w

/-- **One frame** with its input. -/
def frame (w : Window) (input : Input) : Window :=
  (((w.receive input).edit input).grantFocus).answer input

/-- **What a button does.** -/
def press (w : Window) : Button → Window
  | .clearEntry => w.clearEntry
  | .clearResults => w.clearResults
  | .reset => w.reset
  | .delete => { w with entry := w.entry.deleteLast, wantsFocus := true }
  | .key k => { w with entry := w.entry.typeKey k, wantsFocus := true }
  | .equals => w.evaluate
  | .explanation => { w with explanationOpen := !w.explanationOpen }
  | .history => { w with historyOpen := !w.historyOpen }
  | .past i => w.restore i

/-- **A click**: a frame to aim in, and a frame at whose end the button
acts. -/
def click (w : Window) (b : Button) : Window :=
  ((w.frame .idle).frame .idle).press b

/-- A frame without input hands the keyboard over and does nothing else. -/
@[simp] theorem frame_idle (w : Window) : w.frame .idle = w.grantFocus := by
  have he : w.edit .idle = w := by unfold edit; split <;> rfl
  have ha : w.grantFocus.answer .idle = w.grantFocus := by unfold answer; split <;> rfl
  have hr : w.receive .idle = w := rfl
  rw [frame, hr, he, ha]

@[simp] theorem grantFocus_grantFocus (w : Window) : w.grantFocus.grantFocus = w.grantFocus := by
  unfold grantFocus
  split <;> simp_all

@[simp] theorem entry_grantFocus (w : Window) : w.grantFocus.entry = w.entry := by
  unfold grantFocus
  split <;> rfl

/-- A wish that is granted is no longer one. -/
@[simp] theorem wantsFocus_grantFocus (w : Window) : w.grantFocus.wantsFocus = false := by
  unfold grantFocus
  split
  · rfl
  · next h => exact Bool.eq_false_iff.mpr h

/-- **The enter key evaluates if the field asks for the keyboard**, and takes
the keyboard away from it otherwise. -/
theorem frame_enter (w : Window) :
    w.frame .enter =
      if w.wantsFocus then { w with focused := true, wantsFocus := false }.evaluate
      else { w with focused := false } := by
  obtain ⟨entry, result, error, explanation, history, wantsFocus, focused, _, _⟩ := w
  cases wantsFocus <;> cases focused <;> rfl

/-- **The escape key empties the entry** and leaves the keyboard with the
field. -/
theorem frame_escape (w : Window) :
    w.frame .escape = { w with entry := [], focused := true, wantsFocus := false } := rfl

/-- **The backspace key takes one character and then the spaces at the end**, if
the entry field has the keyboard. -/
theorem frame_backspace {w : Window} (h : w.focused = true) :
    w.frame .backspace =
      { w with
        entry := Text.withoutTrailingSpaces w.entry.dropLast
        wantsFocus := false
        focused := true } := by
  obtain ⟨entry, result, error, explanation, history, wantsFocus, focused, _, _⟩ := w
  cases h
  cases wantsFocus <;> rfl

/-- The two frames of a click hand the keyboard over, then the button acts. -/
theorem click_eq (w : Window) (b : Button) : w.click b = w.grantFocus.press b := by
  simp [click]

end Window

/-- **Something that happens to a window.** -/
inductive Step where
  /-- The entry is replaced. -/
  | setEntry (t : Text)
  | reset
  | clearEntry
  | clearResults
  /-- An error is shown. -/
  | fail (message : Text)
  /-- A result is deposited. -/
  | deposit (result : Text) (explanation : Explanation)
  /-- A past calculation is brought back. -/
  | restore (i : Nat)
  /-- A frame is drawn. -/
  | frame (input : Input)
  /-- A button is clicked. -/
  | click (b : Button)
  deriving DecidableEq

namespace Window

/-- **The window after a step.** -/
def step (w : Window) : Step → Window
  | .setEntry t => { w with entry := t }
  | .reset => w.reset
  | .clearEntry => w.clearEntry
  | .clearResults => w.clearResults
  | .fail message => w.fail message
  | .deposit result explanation => w.deposit result explanation
  | .restore i => w.restore i
  | .frame input => w.frame input
  | .click b => w.click b

/-- **The window after a run of steps.** -/
def run (w : Window) (steps : List Step) : Window := steps.foldl step w

@[simp] theorem run_nil (w : Window) : w.run [] = w := rfl

@[simp] theorem run_cons (w : Window) (s : Step) (ss : List Step) :
    w.run (s :: ss) = (w.step s).run ss := rfl

theorem run_append (w : Window) (ss ts : List Step) :
    w.run (ss ++ ts) = (w.run ss).run ts := by
  simp [run]

/-- The last step of a run comes last. -/
theorem run_concat (w : Window) (ss : List Step) (s : Step) :
    w.run (ss ++ [s]) = (w.run ss).step s := run_append w ss [s]

end Window

end IntegerCalculator
