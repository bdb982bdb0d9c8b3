import IntegerCalculator.Proofs.Consistency
import Mathlib.Data.List.DropRight

/-!
# A run, moment by moment

A run is a list of steps, but what a step amounts to depends on the window it
happens to: the enter key may evaluate the entry or do nothing of the kind. A
**moment** is a step together with that window, and a run is told by its
moments (`Window.moments`). What has come about since the last moment of some
sort is the end of that list (`Moment.since`); it grows by one moment or is
empty again, so statements about it go by induction on the last step of a run.

Evaluation is read off the frame as it is drawn: a frame evaluates the entry if
its input is the enter key and the entry field has the keyboard, after the
field has edited its text and has got the keyboard if it asked for it
(`Window.evaluatesOn`). That this comes down to asking for the keyboard at the
start of the frame is a theorem (`Window.evaluatesOn_enter`), since the field
lets the keyboard go when it takes the enter key.
-/

namespace IntegerCalculator

/-- **A step and the window it happens to.** -/
structure Moment where
  window : Window
  step : Step

namespace Window

/-- **The moments of a run**, in order. -/
def moments (w : Window) : List Step → List Moment
  | [] => []
  | s :: steps => ⟨w, s⟩ :: (w.step s).moments steps

/-- **Whether a frame with this input evaluates the entry**: the entry field
has the keyboard when the enter key is answered. -/
def evaluatesOn (w : Window) (input : Input) : Bool :=
  input = .enter && ((w.receive input).edit input).grantFocus.focused

@[simp] theorem moments_nil (w : Window) : w.moments [] = [] := rfl

@[simp] theorem moments_cons (w : Window) (s : Step) (steps : List Step) :
    w.moments (s :: steps) = ⟨w, s⟩ :: (w.step s).moments steps := rfl

/-- The last moment of a run is that of its last step. -/
theorem moments_concat (w : Window) (steps : List Step) (s : Step) :
    w.moments (steps ++ [s]) = w.moments steps ++ [⟨w.run steps, s⟩] := by
  induction steps generalizing w with
  | nil => rfl
  | cons t steps ih => rw [List.cons_append, moments_cons, ih, moments_cons, run_cons]; rfl

/-- The steps of the moments are those of the run. -/
theorem step_mem_of_mem_moments {w : Window} {steps : List Step} {m : Moment}
    (h : m ∈ w.moments steps) : m.step ∈ steps := by
  induction steps generalizing w with
  | nil => exact absurd h List.not_mem_nil
  | cons s steps ih =>
    rcases List.mem_cons.mp h with rfl | h
    · exact List.mem_cons_self
    · exact List.mem_cons_of_mem s (ih h)

/-- **The enter key evaluates if the field asks for the keyboard.** Having it is
not enough: the field lets it go on taking the key. -/
theorem evaluatesOn_enter (w : Window) : w.evaluatesOn .enter = w.wantsFocus := by
  obtain ⟨entry, result, error, explanation, history, wantsFocus, focused, _, _⟩ := w
  cases wantsFocus <;> cases focused <;> rfl

/-- **An enter key that evaluates nothing only takes the keyboard away.** -/
theorem frame_enter_of_not_evaluates {w : Window} (h : w.evaluatesOn .enter = false) :
    w.frame .enter = { w with focused := false } := by
  rw [evaluatesOn_enter] at h
  rw [frame_enter, if_neg (by simp [h])]

/-- No other input evaluates. -/
theorem evaluatesOn_of_ne {input : Input} (h : input ≠ .enter) (w : Window) :
    w.evaluatesOn input = false := by
  simp [evaluatesOn, h]

end Window

namespace Moment

/-- Whether the entry is evaluated at this moment: by the enter key or by a
click on the equals button. -/
def evaluates (m : Moment) : Bool :=
  match m.step with
  | .frame input => m.window.evaluatesOn input
  | .click .equals => true
  | _ => false

/-- **The moments of evaluation**: a frame with the enter key while the field asks
for the keyboard, and a click on the equals button. -/
theorem evaluates_iff {m : Moment} :
    m.evaluates = true
      ↔ m.step = .frame .enter ∧ m.window.wantsFocus = true ∨ m.step = .click .equals := by
  obtain ⟨w, s⟩ := m
  constructor
  · intro h
    cases s with
    | frame input =>
      by_cases hinput : input = .enter
      · subst hinput
        exact .inl ⟨rfl, w.evaluatesOn_enter ▸ h⟩
      · exact absurd (h.symm.trans (Window.evaluatesOn_of_ne hinput w)) (by decide)
    | click b =>
      cases b with
      | equals => exact .inr rfl
      | _ => cases h
    | _ => cases h
  · rintro (⟨rfl, hwants⟩ | rfl)
    · exact w.evaluatesOn_enter.trans hwants
    · rfl

/-- **What a moment of evaluation comes to**: some window with the entry and the
record of that moment evaluates its entry. -/
theorem exists_evaluate_of_evaluates {m : Moment} (h : m.evaluates = true) :
    ∃ v : Window, m.window.step m.step = v.evaluate
      ∧ v.entry = m.window.entry ∧ v.record = m.window.record := by
  obtain ⟨w, s⟩ := m
  rcases evaluates_iff.mp h with ⟨rfl, hwants⟩ | rfl
  · refine ⟨{ w with focused := true, wantsFocus := false }, ?_, rfl, rfl⟩
    exact w.frame_enter.trans (if_pos hwants)
  · exact ⟨w.grantFocus, w.click_eq .equals, w.entry_grantFocus, w.record_grantFocus⟩

/-- **An evaluation leaves on the record what the entry of that moment gives.** -/
theorem record_of_evaluates {m : Moment} (h : m.evaluates = true) :
    (m.window.step m.step).record = m.window.evaluate.record := by
  obtain ⟨v, hstep, hentry, hrecord⟩ := exists_evaluate_of_evaluates h
  rw [hstep]
  exact Window.record_evaluate_congr hentry hrecord

/-- An evaluation leaves the entry as it is. -/
theorem entry_of_evaluates {m : Moment} (h : m.evaluates = true) :
    (m.window.step m.step).entry = m.window.entry := by
  obtain ⟨v, hstep, hentry, -⟩ := exists_evaluate_of_evaluates h
  rw [hstep, Window.entry_evaluate, hentry]

/-- An evaluation makes the field ask for the keyboard. -/
theorem wantsFocus_of_evaluates {m : Moment} (h : m.evaluates = true) :
    (m.window.step m.step).wantsFocus = true := by
  obtain ⟨v, hstep, -, -⟩ := exists_evaluate_of_evaluates h
  rw [hstep, Window.wantsFocus_evaluate]

/-- **The moments since the last one that `stop` tells**, that one left out. -/
def since (stop : Moment → Bool) (ms : List Moment) : List Moment :=
  ms.rtakeWhile fun m => !stop m

@[simp] theorem since_nil (stop : Moment → Bool) : since stop [] = [] := rfl

theorem since_concat (stop : Moment → Bool) (ms : List Moment) (m : Moment) :
    since stop (ms ++ [m]) = if stop m then [] else since stop ms ++ [m] := by
  rw [since, List.rtakeWhile_concat]
  cases stop m <;> rfl

theorem mem_of_mem_since {stop : Moment → Bool} {ms : List Moment} {m : Moment}
    (h : m ∈ since stop ms) : m ∈ ms :=
  (List.rtakeWhile_suffix _ _).mem h

end Moment

end IntegerCalculator
