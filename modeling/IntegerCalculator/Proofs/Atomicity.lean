import IntegerCalculator.Proofs.Folding
import IntegerCalculator.Window.Frame

/-!
# The two ways to evaluate

The entry is evaluated by the enter key or by a click on the equals button, and
the two get there differently. The enter key is one frame: the entry field lets
the keyboard go on taking the key, gets it back because it asks for it, and only
then answers the key. A click is two frames without a key, the first of which
hands the keyboard over, and the evaluation at the end of the second. They end
in the same window if the field asks for the keyboard, and in no other case
(`Window.frame_enter_eq_click_equals_iff`): a field that does not ask just loses
the keyboard to the enter key.

Either way the window after an evaluation is the one before it with a few fields
replaced, and which fields these are depends on the outcome alone. A refusal
replaces the error and the explanation; since it leaves the entry and asks for
the keyboard, the next attempt meets the same entry and is refused again, with
no further effect (`Window.run_attempts_of_refused`).
-/

namespace IntegerCalculator

/-- Whether the step is meant to evaluate the entry: the enter key, or a click
on the equals button. -/
def Step.isAttempt : Step → Bool
  | .frame .enter => true
  | .click .equals => true
  | _ => false

namespace Window

/-- **The window that an evaluation with the error `e` leaves.** -/
def refused (w : Window) (e : CalcError) : Window :=
  { w with error := e.message, explanation := {}, wantsFocus := true, focused := true }

/-- **The window that an evaluation with this value and this explanation
leaves.** -/
def answered (w : Window) (v : Int) (d : Explanation) : Window :=
  { w with
    error := []
    result := Decimal.ofInt v
    explanation := d
    history := (⟨w.entry.trim, Decimal.ofInt v⟩ :: w.history).take historyLimit
    wantsFocus := true
    focused := true }

section

variable {w : Window} {e : CalcError} {v : Int} {d : Explanation}

/-- **Both ways meet in one window** if the field asks for the keyboard: it has
the keyboard, and the entry is evaluated. -/
theorem step_attempt {s : Step} (hs : s.isAttempt = true) (hw : w.wantsFocus = true) :
    w.step s = { w with focused := true, wantsFocus := false }.evaluate := by
  cases s with
  | frame input =>
    cases input with
    | enter => exact w.frame_enter.trans (if_pos hw)
    | _ => cases hs
  | click b =>
    cases b with
    | equals =>
      have hgrant : w.grantFocus = { w with focused := true, wantsFocus := false } := if_pos hw
      rw [step, click_eq, hgrant]
      rfl
    | _ => cases hs
  | _ => cases hs

/-- **A failed evaluation is atomic.** -/
theorem step_attempt_of_error {s : Step} (hs : s.isAttempt = true) (hw : w.wantsFocus = true)
    (h : explain w.entry = .error e) : w.step s = w.refused e := by
  have hentry : explain { w with focused := true, wantsFocus := false }.entry = .error e := h
  rw [step_attempt hs hw, evaluate, hentry]
  rfl

/-- **A successful evaluation deposits its result.** -/
theorem step_attempt_of_ok {s : Step} (hs : s.isAttempt = true) (hw : w.wantsFocus = true)
    (h : explain w.entry = .ok (v, d)) : w.step s = w.answered v d := by
  have hentry : explain { w with focused := true, wantsFocus := false }.entry = .ok (v, d) := h
  rw [step_attempt hs hw, evaluate, hentry]
  rfl

/-- **The enter key is as good as the equals button if the field asks for the
keyboard**, and in no other case: what a click evaluates asks for the keyboard
afterwards, and the enter key on a field that does not ask leaves it so. -/
theorem frame_enter_eq_click_equals_iff :
    w.frame .enter = w.click .equals ↔ w.wantsFocus = true := by
  constructor
  · intro h
    cases hw : w.wantsFocus with
    | true => rfl
    | false =>
      have henter : (w.frame .enter).wantsFocus = false := by
        rw [frame_enter, if_neg (by simp [hw])]
        exact hw
      have hequals : (w.click .equals).wantsFocus = true := by
        rw [click_eq]
        exact wantsFocus_evaluate _
      rw [← henter, h, hequals]
  · intro hw
    have hequals : w.step (.click .equals) = _ := step_attempt rfl hw
    exact (step_attempt (s := .frame .enter) rfl hw).trans hequals.symm

/-- **In a run the one may stand for the other**, at any moment at which the
field asks for the keyboard. -/
theorem run_enter_eq_run_equals {before after : List Step}
    (h : (w.run before).wantsFocus = true) :
    w.run (before ++ .frame .enter :: after) = w.run (before ++ .click .equals :: after) := by
  have hstep : (w.run before).step (.frame .enter) = (w.run before).step (.click .equals) :=
    frame_enter_eq_click_equals_iff.mpr h
  rw [run_append, run_append, run_cons, run_cons, hstep]

/-- **To try again changes nothing.** A refused entry is refused however often
and in whichever way it is tried, and all attempts together leave what the first
one left. -/
theorem run_attempts_of_refused {steps : List Step} (hsteps : ∀ s ∈ steps, s.isAttempt = true)
    (hne : steps ≠ []) (hw : w.wantsFocus = true) (h : explain w.entry = .error e) :
    w.run steps = w.refused e := by
  induction steps generalizing w with
  | nil => exact absurd rfl hne
  | cons s steps ih =>
    obtain ⟨hs, hsteps⟩ := List.forall_mem_cons.mp hsteps
    rw [run_cons, step_attempt_of_error hs hw h]
    by_cases hmore : steps = []
    · rw [hmore, run_nil]
    · -- the refused window is one to which the same refusal happens
      exact ih hsteps hmore rfl h

end

/-- **The enter key and the equals button evaluate alike, and an error leaves no
trace of its own.** If the field asks for the keyboard, both steps end in the
same window. On an error that is the window before, with the message for its
error and with nothing explained; the result and the history stay. On a value
the result is the value in decimal, the explanation is its explanation, and the
history has the trimmed entry with that result in front, as far as twelve
calculations go. In all cases the entry stays and the field has the keyboard. -/
theorem enter_agrees_with_equals {w : Window} (hw : w.wantsFocus = true) :
    w.step (.frame .enter) = w.step (.click .equals)
    ∧ (∀ e, explain w.entry = .error e →
        w.step (.frame .enter) =
          { w with error := e.message, explanation := {}, wantsFocus := true, focused := true })
    ∧ ∀ v d, explain w.entry = .ok (v, d) →
        w.step (.frame .enter) =
          { w with
            error := []
            result := (toString v).toList
            explanation := d
            history := (⟨w.entry.trim, (toString v).toList⟩ :: w.history).take 12
            wantsFocus := true
            focused := true } := by
  refine ⟨frame_enter_eq_click_equals_iff.mpr hw, fun e he => step_attempt_of_error rfl hw he,
    fun v d hv => ?_⟩
  rw [step_attempt_of_ok rfl hw hv, answered, Decimal.ofInt_eq_toString]
  rfl

/-- A window that shows `5` for `10/2` is asked for `1/0`, and for ` 7/2 `. -/
theorem enter_agrees_with_equals_division :
    step { entry := "1/0".toList, result := "5".toList,
           history := [⟨"10/2".toList, "5".toList⟩] } (.click .equals)
        = { entry := "1/0".toList, result := "5".toList, error := "division par zéro".toList,
            history := [⟨"10/2".toList, "5".toList⟩], focused := true }
    ∧ (step { entry := " 7/2 ".toList, result := "5".toList,
              history := [⟨"10/2".toList, "5".toList⟩] } (.click .equals)).history
        = [⟨"7/2".toList, "3".toList⟩, ⟨"10/2".toList, "5".toList⟩] := by
  have hzero : explain "1/0".toList = .error .divisionByZero := by
    have hparse : Tree.parse (tokenize "1/0".toList) = .ok (.node (.leaf 1) .div (.leaf 0)) :=
      eq_ok_of_toOption (by decide +kernel)
    rw [explain, workings_of_parse hparse, Tree.evaluate_eq_value]
    rfl
  have hhalf : ∃ d, explain " 7/2 ".toList = .ok (3, d) := by
    have hparse : Tree.parse (tokenize " 7/2 ".toList) = .ok (.node (.leaf 7) .div (.leaf 2)) :=
      eq_ok_of_toOption (by decide +kernel)
    rw [explain, workings_of_parse hparse, Tree.evaluate_eq_value]
    exact ⟨_, rfl⟩
  obtain ⟨d, hd⟩ := hhalf
  constructor
  · obtain ⟨hsame, herror, -⟩ := enter_agrees_with_equals
      (w := { entry := "1/0".toList, result := "5".toList,
              history := [⟨"10/2".toList, "5".toList⟩] }) rfl
    rw [← hsame, herror .divisionByZero hzero]
    rfl
  · obtain ⟨hsame, -, hvalue⟩ := enter_agrees_with_equals
      (w := { entry := " 7/2 ".toList, result := "5".toList,
              history := [⟨"10/2".toList, "5".toList⟩] }) rfl
    rw [← hsame, hvalue 3 d hd]
    show ([⟨Text.trim " 7/2 ".toList, (toString (3 : Int)).toList⟩,
      ⟨"10/2".toList, "5".toList⟩] : List Calculation) = _
    decide +kernel

end Window

end IntegerCalculator
