import IntegerCalculator.Proofs.Folding
import IntegerCalculator.Proofs.Tokenizing
import IntegerCalculator.Window.Frame

/-!
# What the window shows belongs together

Of a window, the **record** is what calculations have left on it: the result,
the error, the explanation and the history. Whatever is typed, clicked or
recalled, the parts of the record fit each other (`Record.Consistent`): the
explanation is there exactly while the result is the latest news, it explains
the newest line of the history, and every line of the history is true.

A step does one of four things to the record (`Window.record_step`): nothing,
one evaluation of the entry, clearing the results, clearing everything. Each of
them keeps the record consistent, so every run does. Results and errors put in
from outside are the exception, since nobody has calculated them.

The history keeps the entry without its outer blanks. That this is still the
same calculation rests on `tokenize_trim`.
-/

namespace IntegerCalculator

/-- **What calculations have left on a window.** -/
structure Record where
  result : Text
  error : Text
  explanation : Explanation
  history : List Calculation
  deriving DecidableEq

/-- **The parts of the record belong together.** -/
structure Record.Consistent (r : Record) : Prop where
  /-- There is an explanation exactly while there is a result and no error. -/
  explained_iff : r.explanation ≠ {} ↔ r.result ≠ [] ∧ r.error = []
  /-- It is the explanation of the newest calculation, whose value is shown. -/
  explained : r.explanation ≠ {} → ∃ c cs v, r.history = c :: cs
    ∧ explain c.entry = .ok (v, r.explanation) ∧ Decimal.ofInt v = r.result
  /-- A result that is shown is that of the newest calculation. -/
  result_eq : r.result ≠ [] → ∃ c cs, r.history = c :: cs ∧ c.result = r.result
  /-- Every past calculation has the value that is written behind it. -/
  history_valid : ∀ c ∈ r.history, ∃ v, calculate c.entry = .ok v ∧ Decimal.ofInt v = c.result

/-- An operation called from outside that puts in a result or an error of its
own. -/
def Step.isForeign : Step → Bool
  | .fail _ => true
  | .deposit _ _ => true
  | _ => false

/-! ## The explanation of a text -/

/-- **An explanation is never the empty one**: it has a note. -/
theorem explanation_ne_empty_of_explain {t : Text} {v : Int} {e : Explanation}
    (h : explain t = .ok (v, e)) : e ≠ {} := by
  obtain ⟨w, -, hw⟩ := exists_of_map_eq_ok h
  obtain ⟨-, rfl⟩ := Prod.mk.inj hw
  intro hempty
  have hnote : pipelineNote = [] := congrArg Explanation.note hempty
  exact absurd hnote (by decide)

/-- A text is explained like the text between its outer blanks. -/
theorem explain_trim (t : Text) : explain t.trim = explain t := by
  rw [explain, explain, workings_congr (tokenize_trim t)]

namespace Window

/-- The record of a window. -/
def record (w : Window) : Record := ⟨w.result, w.error, w.explanation, w.history⟩

/-! ## What a step does to the record -/

@[simp] theorem record_grantFocus (w : Window) : w.grantFocus.record = w.record := by
  unfold grantFocus
  split <;> rfl

theorem record_restore (w : Window) (i : Nat) : (w.restore i).record = w.record := by
  unfold restore
  split <;> rfl

theorem record_clearResults (w : Window) :
    w.clearResults.record = ⟨[], [], {}, w.record.history⟩ := rfl

theorem record_fail (w : Window) (message : Text) :
    (w.fail message).record = ⟨w.record.result, message, {}, w.record.history⟩ := rfl

theorem record_deposit (w : Window) (result : Text) (explanation : Explanation) :
    (w.deposit result explanation).record =
      ⟨result, [], explanation,
        (⟨w.entry.trim, result⟩ :: w.record.history).take historyLimit⟩ := rfl

/-- **What an evaluation does to the record** depends on the entry and on the
record alone. -/
theorem record_evaluate_congr {v w : Window} (hentry : v.entry = w.entry)
    (hrecord : v.record = w.record) : v.evaluate.record = w.evaluate.record := by
  rw [evaluate, evaluate, hentry]
  split
  · rw [record_deposit, record_deposit, hentry, hrecord]
  · rw [record_fail, record_fail, hrecord]

/-- **Only the enter key evaluates.** -/
theorem record_frame_of_ne {w : Window} {input : Input} (h : input ≠ .enter) :
    (w.frame input).record = w.record := by
  have hreceive : (w.receive input).record = w.record := by cases input <;> rfl
  have hedit (v : Window) : (v.edit input).record = v.record := by
    unfold edit
    split
    · cases input <;> rfl
    · rfl
  have hanswer (v : Window) : (v.answer input).record = v.record := by
    unfold answer
    split
    · cases input with
      | enter => exact absurd rfl h
      | _ => rfl
    · rfl
  rw [frame, hanswer, record_grantFocus, hedit, hreceive]

/-- **What a step does to the record**: nothing, one evaluation of the entry as
it stands, the results cleared, everything cleared – or what comes from
outside. -/
theorem record_step (w : Window) (s : Step) :
    (w.step s).record = w.record
      ∨ (w.step s).record = w.evaluate.record
      ∨ (w.step s).record = w.clearResults.record
      ∨ (w.step s).record = w.reset.record
      ∨ s.isForeign = true := by
  cases s with
  | setEntry t => exact .inl rfl
  | reset => exact .inr (.inr (.inr (.inl rfl)))
  | clearEntry => exact .inl rfl
  | clearResults => exact .inr (.inr (.inl rfl))
  | fail message => exact .inr (.inr (.inr (.inr rfl)))
  | deposit result explanation => exact .inr (.inr (.inr (.inr rfl)))
  | restore i => exact .inl (record_restore w i)
  | frame input =>
    by_cases hinput : input = .enter
    · subst hinput
      rw [step, frame_enter]
      split
      · exact .inr (.inl (record_evaluate_congr rfl rfl))
      · exact .inl rfl
    · exact .inl (record_frame_of_ne hinput)
  | click b =>
    rw [step, click_eq]
    cases b with
    | clearResults =>
      refine .inr (.inr (.inl ?_))
      rw [press, record_clearResults, record_clearResults, record_grantFocus]
    | reset => exact .inr (.inr (.inr (.inl rfl)))
    | equals =>
      exact .inr (.inl (record_evaluate_congr (entry_grantFocus w) (record_grantFocus w)))
    | past i => exact .inl ((record_restore _ i).trans (record_grantFocus w))
    | _ => exact .inl (record_grantFocus w)

/-! ## Every step keeps the record consistent -/

theorem fresh_consistent : fresh.record.Consistent where
  explained_iff := by simp [record, fresh]
  explained h := absurd rfl h
  result_eq h := absurd rfl h
  history_valid c hc := absurd hc List.not_mem_nil

/-- **An evaluation keeps the record consistent**, whatever the entry is. -/
theorem evaluate_consistent {w : Window} (hw : w.record.Consistent) :
    w.evaluate.record.Consistent := by
  rw [evaluate]
  split
  · next v e he =>
    have hcalculate : calculate w.entry.trim = .ok v := by
      rw [← map_fst_explain, explain_trim, he]
      rfl
    have htake : (⟨w.entry.trim, Decimal.ofInt v⟩ :: w.record.history).take historyLimit
        = ⟨w.entry.trim, Decimal.ofInt v⟩ :: w.record.history.take (historyLimit - 1) := rfl
    rw [record_deposit, htake]
    exact {
      explained_iff := iff_of_true (explanation_ne_empty_of_explain he)
        ⟨Decimal.ofInt_ne_nil v, rfl⟩
      explained := fun _ => ⟨_, _, v, rfl, (explain_trim w.entry).trans he, rfl⟩
      result_eq := fun _ => ⟨_, _, rfl, rfl⟩
      history_valid := fun c hc => by
        rcases List.mem_cons.mp hc with rfl | hc
        · exact ⟨v, hcalculate, rfl⟩
        · exact hw.history_valid c (List.mem_of_mem_take hc) }
  · next e he =>
    rw [record_fail]
    exact {
      explained_iff := iff_of_false (fun h => h rfl) fun h => e.message_ne_nil h.2
      explained := fun h => absurd rfl h
      result_eq := hw.result_eq
      history_valid := hw.history_valid }

/-- Cleared results leave the history as it was. -/
theorem clearResults_consistent {w : Window} (hw : w.record.Consistent) :
    w.clearResults.record.Consistent where
  explained_iff := iff_of_false (fun h => h rfl) fun h => h.1 rfl
  explained h := absurd rfl h
  result_eq h := absurd rfl h
  history_valid := hw.history_valid

/-- **A step that is not foreign keeps the record consistent.** -/
theorem step_consistent {w : Window} (hw : w.record.Consistent) {s : Step}
    (hs : s.isForeign = false) : (w.step s).record.Consistent := by
  obtain h | h | h | h | h := record_step w s
  · rw [h]
    exact hw
  · rw [h]
    exact evaluate_consistent hw
  · rw [h]
    exact clearResults_consistent hw
  · rw [h]
    exact fresh_consistent
  · rw [hs] at h
    cases h

/-- A run whose steps are not foreign keeps the record consistent. -/
theorem run_consistent {w : Window} (hw : w.record.Consistent) {steps : List Step}
    (h : ∀ s ∈ steps, s.isForeign = false) : (w.run steps).record.Consistent := by
  induction steps generalizing w with
  | nil => exact hw
  | cons s steps ih =>
    rw [run_cons]
    exact ih (step_consistent hw (h s List.mem_cons_self))
      fun t ht => h t (List.mem_cons_of_mem s ht)

/-- **Whatever is done to a window, what it shows belongs together**, as long
as nobody puts in results or errors of their own. -/
theorem fresh_run_consistent {steps : List Step} (h : ∀ s ∈ steps, s.isForeign = false) :
    (fresh.run steps).record.Consistent :=
  run_consistent fresh_consistent h

/-- A calculation between blanks, then one that fails: the result of the first
is still shown, and is no longer explained. -/
theorem fresh_run_consistent_failed :
    Record.Consistent
      ⟨"3".toList, "division par zéro".toList, {}, [⟨"7/2".toList, "3".toList⟩]⟩ := by
  let steps : List Step := [.setEntry " 7/2 ".toList, .click .equals,
    .setEntry "1/0".toList, .frame .idle, .click .equals]
  have hrecord : (fresh.run steps).record
      = ⟨"3".toList, "division par zéro".toList, {}, [⟨"7/2".toList, "3".toList⟩]⟩ := by
    decide +kernel
  rw [← hrecord]
  exact fresh_run_consistent (by decide)

end Window

end IntegerCalculator
