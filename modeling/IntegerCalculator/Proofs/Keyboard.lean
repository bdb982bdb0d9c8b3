import IntegerCalculator.Proofs.Moments

/-!
# When the enter key evaluates

Whether a frame with the enter key evaluates the entry hangs on two flags that
change at different places of a frame: whether the entry field has the keyboard
and whether it asks for it. Over a run it comes down to a law on the steps
alone. A moment **arms** the field if it leaves it asking for the keyboard: any
operation from outside but the replacement of the entry, any click but those on
the two panels, and an enter key that evaluates. The next frame that is drawn
uses this up, whatever its input. So the enter key evaluates if and only if no
frame has been drawn since the last arming, where the opening of the window
counts as one (`Window.fresh_run_enter_evaluates_iff`).

An enter key that evaluates nothing takes the keyboard away from the field,
which then neither has it nor asks for it: the window is **deaf**
(`Window.Deaf`). No key is heard any more until the escape key, which gives the
keyboard back, or the next arming.

Having the keyboard is therefore not what the enter key needs, although that is
when one would press it: a frame in which text is typed is a frame that is
drawn, so the enter key behind it never evaluates what was typed
(`Window.fresh_run_enter_focused`, `Window.not_enter_evaluates_of_focused`).
-/

namespace IntegerCalculator

/-- A step that draws a frame. A click draws two. -/
def Step.drawsFrame : Step → Bool
  | .frame _ | .click _ => true
  | _ => false

namespace Moment

/-- **Whether a moment arms the entry field**: an operation from outside other than
the replacement of the entry, a click on a button other than those of the two
panels, or a frame with an enter key that evaluates. -/
def arms (m : Moment) : Bool :=
  match m.step with
  | .setEntry _ => false
  | .reset | .clearEntry | .clearResults | .fail _ | .deposit _ _ | .restore _ => true
  | .frame input => m.window.evaluatesOn input
  | .click .explanation | .click .history => false
  | .click _ => true

end Moment

namespace Window

/-! ## Asking for the keyboard -/

/-- Without the enter key a frame leaves nothing to ask for. -/
theorem wantsFocus_frame_of_ne {w : Window} {input : Input} (h : input ≠ .enter) :
    (w.frame input).wantsFocus = false := by
  have hanswer (v : Window) : (v.answer input).wantsFocus = v.wantsFocus := by
    unfold answer
    split
    · cases input with
      | enter => exact absurd rfl h
      | _ => rfl
    · rfl
  rw [frame, hanswer, wantsFocus_grantFocus]

end Window

namespace Moment

open Window

/-- **An arming moment leaves the field asking for the keyboard.** -/
theorem wantsFocus_of_arms {m : Moment} (h : m.arms = true) :
    (m.window.step m.step).wantsFocus = true := by
  obtain ⟨w, s⟩ := m
  cases s with
  | setEntry t => cases h
  | reset | clearEntry | clearResults | fail message | deposit result explanation => rfl
  | restore i => exact wantsFocus_restore w i
  | frame input => exact wantsFocus_of_evaluates (m := ⟨w, .frame input⟩) h
  | click b =>
    show (w.click b).wantsFocus = true
    rw [click_eq]
    cases b with
    | explanation | history => cases h
    | equals => exact wantsFocus_evaluate w.grantFocus
    | past i => exact wantsFocus_restore w.grantFocus i
    | _ => rfl

/-- **Any other frame uses the wish up**, and what draws no frame leaves it as it
is. -/
theorem wantsFocus_of_not_arms {m : Moment} (h : m.arms = false) :
    (m.window.step m.step).wantsFocus = (m.window.wantsFocus && !m.step.drawsFrame) := by
  obtain ⟨w, s⟩ := m
  cases s with
  | setEntry t => exact (Bool.and_true w.wantsFocus).symm
  | reset | clearEntry | clearResults | fail message | deposit result explanation
  | restore i => cases h
  | frame input =>
    rw [show Step.drawsFrame (.frame input) = true from rfl, Bool.not_true, Bool.and_false]
    by_cases hinput : input = .enter
    · subst hinput
      show (w.frame .enter).wantsFocus = false
      rw [frame_enter_of_not_evaluates h]
      exact w.evaluatesOn_enter ▸ h
    · exact wantsFocus_frame_of_ne hinput
  | click b =>
    rw [show Step.drawsFrame (.click b) = true from rfl, Bool.not_true, Bool.and_false]
    show (w.click b).wantsFocus = false
    rw [click_eq]
    cases b with
    | explanation | history => exact wantsFocus_grantFocus w
    | _ => cases h

end Moment

namespace Window

/-- **The field asks for the keyboard if no frame has been drawn since it was last
armed.** -/
theorem wantsFocus_run_iff {w : Window} (hw : w.wantsFocus = true) (steps : List Step) :
    (w.run steps).wantsFocus = true
      ↔ ∀ m ∈ Moment.since Moment.arms (w.moments steps), m.step.drawsFrame = false := by
  induction steps using List.reverseRecOn with
  | nil => simpa using hw
  | append_singleton steps s ih =>
    rw [run_concat, moments_concat, Moment.since_concat]
    cases harms : Moment.arms ⟨w.run steps, s⟩ with
    | true =>
      refine iff_of_true (Moment.wantsFocus_of_arms harms) fun m hm => ?_
      exact absurd hm List.not_mem_nil
    | false =>
      have hwants := Moment.wantsFocus_of_not_arms harms
      rw [hwants, Bool.and_eq_true, ih, Bool.not_eq_true']
      simp [or_imp, forall_and]

/-! ## A window that hears no key -/

/-- **The window is deaf**: the entry field neither has the keyboard nor asks for
it. -/
structure Deaf (w : Window) : Prop where
  focused : w.focused = false
  wantsFocus : w.wantsFocus = false

namespace Deaf

variable {w : Window}

/-- **Nothing but the escape key is heard.** -/
theorem frame (h : w.Deaf) {input : Input} (hinput : input ≠ .escape) :
    w.frame input = w := by
  have hreceive : w.receive input = w := by
    cases input with
    | escape => exact absurd rfl hinput
    | _ => rfl
  have hedit : w.edit input = w := if_neg (by simp [h.focused])
  have hgrant : w.grantFocus = w := if_neg (by simp [h.wantsFocus])
  have hanswer : w.answer input = w := if_neg (by simp [h.focused])
  rw [Window.frame, hreceive, hedit, hgrant, hanswer]

/-- A deaf window stays so until it is armed or hears the escape key. -/
theorem step (h : w.Deaf) {s : Step} (harms : Moment.arms ⟨w, s⟩ = false)
    (hs : s ≠ .frame .escape) : (w.step s).Deaf := by
  refine ⟨?_, ?_⟩
  · cases s with
    | setEntry t => exact h.focused
    | frame input =>
      have hinput : input ≠ .escape := fun hinput => hs (by rw [hinput])
      rw [Window.step, h.frame hinput]
      exact h.focused
    | click b =>
      have hgrant : w.grantFocus = w := if_neg (by simp [h.wantsFocus])
      rw [Window.step, click_eq, hgrant]
      cases b with
      | explanation | history => exact h.focused
      | _ => cases harms
    | _ => cases harms
  · have hwants := Moment.wantsFocus_of_not_arms harms
    rw [hwants, h.wantsFocus, Bool.false_and]

theorem run (h : w.Deaf) {steps : List Step}
    (hsteps : ∀ m ∈ w.moments steps, m.arms = false ∧ m.step ≠ .frame .escape) :
    (w.run steps).Deaf := by
  induction steps generalizing w with
  | nil => exact h
  | cons s steps ih =>
    obtain ⟨harms, hs⟩ := hsteps ⟨w, s⟩ List.mem_cons_self
    exact ih (h.step harms hs) fun m hm => hsteps m (List.mem_cons_of_mem _ hm)

/-- Any number of frames without the escape key change nothing. -/
theorem run_frames (h : w.Deaf) {inputs : List Input} (hinputs : .escape ∉ inputs) :
    w.run (inputs.map .frame) = w := by
  induction inputs with
  | nil => rfl
  | cons input inputs ih =>
    simp only [List.mem_cons, not_or] at hinputs
    rw [List.map_cons, run_cons, Window.step, h.frame (Ne.symm hinputs.1)]
    exact ih hinputs.2

end Deaf

/-! ## The law of the enter key -/

/-- **What becomes of a window whose enter key is not answered.** -/
structure GoesDeaf (w : Window) : Prop where
  /-- The field lets the keyboard go and nothing else changes. -/
  frame_eq : w.frame .enter = { w with focused := false }
  /-- The field does not ask for the keyboard either. -/
  deaf : (w.frame .enter).Deaf
  /-- Until the escape key or an arming step, frames change nothing. -/
  unchanged : ∀ later : List Step,
    (∀ m ∈ (w.frame .enter).moments later, m.arms = false ∧ m.step ≠ .frame .escape) →
    ∀ inputs : List Input, .escape ∉ inputs →
      ((w.frame .enter).run later).run (inputs.map .frame) = (w.frame .enter).run later

theorem goesDeaf {w : Window} (h : w.evaluatesOn .enter = false) : w.GoesDeaf := by
  have hframe := frame_enter_of_not_evaluates h
  have hdeaf : (w.frame .enter).Deaf := by
    rw [hframe]
    exact ⟨rfl, w.evaluatesOn_enter ▸ h⟩
  exact {
    frame_eq := hframe
    deaf := hdeaf
    unchanged := fun later hlater inputs hinputs => (hdeaf.run hlater).run_frames hinputs }

/-- **The enter key evaluates if and only if no frame has been drawn since the last
arming**; otherwise the window goes deaf. -/
theorem fresh_run_enter_evaluates_iff (steps : List Step) :
    ((fresh.run steps).evaluatesOn .enter = true
        ↔ ∀ m ∈ Moment.since Moment.arms (fresh.moments steps), m.step.drawsFrame = false)
      ∧ ((fresh.run steps).evaluatesOn .enter = true →
        ((fresh.run steps).frame .enter).record = (fresh.run steps).evaluate.record
          ∧ ((fresh.run steps).frame .enter).entry = (fresh.run steps).entry)
      ∧ ((fresh.run steps).evaluatesOn .enter = false → (fresh.run steps).GoesDeaf) := by
  refine ⟨?_, fun h => ?_, goesDeaf⟩
  · rw [evaluatesOn_enter]
    exact wantsFocus_run_iff rfl steps
  · exact ⟨Moment.record_of_evaluates (m := ⟨_, .frame .enter⟩) h,
      Moment.entry_of_evaluates (m := ⟨_, .frame .enter⟩) h⟩

/-- Clearing the results behind the escape key arms the field; in front of it, the
escape key has used that up. -/
theorem fresh_run_enter_evaluates_iff_cleared :
    (fresh.run [.frame .escape, .clearResults, .setEntry "7/2".toList]).evaluatesOn .enter = true
      ∧ (fresh.run [.clearResults, .frame .escape, .setEntry "7/2".toList]).GoesDeaf :=
  ⟨(fresh_run_enter_evaluates_iff _).1.mpr (by decide),
    (fresh_run_enter_evaluates_iff _).2.2 (by decide)⟩

/-! ## The enter key in a field that has the keyboard -/

/-- What is typed into a field that has the keyboard stands at the end of the
entry. -/
theorem entry_frame_typed {w : Window} (h : w.focused = true) (t : Text) :
    (w.frame (.typed t)).entry = w.entry ++ typedText t := by
  have hedit : w.edit (.typed t) = { w with entry := w.entry ++ typedText t } := if_pos h
  have hanswer (v : Window) : v.answer (.typed t) = v := by unfold answer; split <;> rfl
  have hreceive : w.receive (.typed t) = w := rfl
  rw [frame, hreceive, hedit, hanswer, entry_grantFocus]

/-- **A field that has the keyboard evaluates on the enter key if it asks for the
keyboard as well, and lets it go otherwise.** What is typed into it is never
evaluated by the enter key behind it. -/
theorem fresh_run_enter_focused {steps : List Step} (h : (fresh.run steps).focused = true) :
    ((fresh.run steps).wantsFocus = true →
        (fresh.run steps).evaluatesOn .enter = true
          ∧ ((fresh.run steps).frame .enter).record = (fresh.run steps).evaluate.record)
      ∧ ((fresh.run steps).wantsFocus = false →
        (fresh.run steps).frame .enter = { fresh.run steps with focused := false })
      ∧ ∀ t : Text,
        ((fresh.run steps).frame (.typed t)).entry = (fresh.run steps).entry ++ typedText t
          ∧ ((fresh.run steps).frame (.typed t)).frame .enter
            = { (fresh.run steps).frame (.typed t) with focused := false } := by
  refine ⟨fun hwants => ?_, fun hwants => ?_, fun t => ⟨entry_frame_typed h t, ?_⟩⟩
  · have hevaluates := (fresh.run steps).evaluatesOn_enter.trans hwants
    exact ⟨hevaluates, Moment.record_of_evaluates (m := ⟨_, .frame .enter⟩) hevaluates⟩
  · exact frame_enter_of_not_evaluates ((evaluatesOn_enter _).trans hwants)
  · -- the frame in which the text is typed has used up the wish for the keyboard
    refine frame_enter_of_not_evaluates ?_
    rw [evaluatesOn_enter]
    exact wantsFocus_frame_of_ne nofun

/-- `1+1` is typed into the field as the window opens, and not evaluated. -/
theorem fresh_run_enter_focused_typed :
    fresh.run [.frame .idle, .frame (.typed "1+1".toList), .frame .enter]
      = { fresh with entry := "1+1".toList, wantsFocus := false } := by
  have hfocused : (fresh.run [.frame .idle]).focused = true := rfl
  obtain ⟨-, hframe⟩ := (fresh_run_enter_focused hfocused).2.2 "1+1".toList
  exact hframe.trans (by decide)

/-- **Having the keyboard is not enough**: a field may have it and not evaluate its
entry on the enter key. -/
theorem not_enter_evaluates_of_focused :
    ¬ ∀ steps : List Step, (fresh.run steps).focused = true →
      ((fresh.run steps).frame .enter).record = (fresh.run steps).evaluate.record := by
  intro h
  have htyped := h [.frame .idle, .frame (.typed "1+1".toList)] rfl
  exact absurd htyped (by decide +kernel)

end Window

end IntegerCalculator
