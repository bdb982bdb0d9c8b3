import IntegerCalculator.Proofs.Moments

/-!
# The history over whole runs

A window forgets: of its past calculations it keeps twelve. What it has been
through is the **log** of the run (`Window.log`): every calculation deposited
since everything was last reset, in order, with the entry as it stood when it
was deposited. The history is the log read backwards as far as the limit
(`Window.fresh_run_remembers`).

There are three ways to deposit a calculation – from outside, by the equals
button, by the enter key in a frame that evaluates – and `Moment.deposited?` is
where they meet. A step that is no reset puts what it deposits in front of the
history (`history_step`), and cutting the history at every step is cutting the
log once.

In a run without deposits from outside, every line of the history is that of an
entry evaluated in the past (`exists_of_mem_history`), and its text is trimmed
already. So a line brought back and evaluated gives itself again
(`Window.fresh_run_restored`).
-/

namespace IntegerCalculator

namespace Step

/-- A step that resets everything. -/
def isReset : Step → Bool
  | .reset | .click .reset => true
  | _ => false

/-- A result put in from outside. -/
def isDeposit : Step → Bool
  | .deposit _ _ => true
  | _ => false

/-- **A step that has nothing to do with the history**: no reset, no deposit and
neither of the two that evaluate. Clearing the entry or the results, showing an
error, typing by key or by button, recalling, drawing and opening a panel are
such steps. -/
def sparesHistory (s : Step) : Bool :=
  !s.isReset && !s.isDeposit && s ≠ .frame .enter && s ≠ .click .equals

end Step

namespace Window

/-- **The calculation that an evaluation of the entry deposits**, if the entry
has a value. -/
def calculation? (w : Window) : Option Calculation :=
  match calculate w.entry with
  | .ok v => some ⟨w.entry.trim, Decimal.ofInt v⟩
  | .error _ => none

end Window

namespace Moment

/-- **The calculation deposited at a moment**, if one is: a result from outside, or
that of an evaluation that succeeds, with the trimmed entry of that moment. -/
def deposited? (m : Moment) : Option Calculation :=
  match m.step with
  | .deposit result _ => some ⟨m.window.entry.trim, result⟩
  | _ => if m.evaluates then m.window.calculation? else none

end Moment

namespace Window

/-- **The log of a run**: what has been deposited since the last reset, in
order. -/
def log (w : Window) (steps : List Step) : List Calculation :=
  (Moment.since (·.step.isReset) (w.moments steps)).filterMap Moment.deposited?

/-- **A window remembers its log.** -/
structure Remembers (w : Window) (log : List Calculation) : Prop where
  /-- The history is the log, the newest first, cut at the limit. -/
  history_eq : w.history = log.reverse.take historyLimit
  /-- It never exceeds the limit. -/
  length_le : w.history.length ≤ historyLimit
  /-- The steps that have nothing to do with the history leave it alone. -/
  spared : ∀ s : Step, s.sparesHistory = true → (w.step s).history = w.history
  /-- An evaluation that fails leaves it alone. -/
  failed : ∀ (s : Step) (e : CalcError), Moment.evaluates ⟨w, s⟩ = true →
    calculate w.entry = .error e → (w.step s).history = w.history
  /-- A frame with the enter key that evaluates nothing leaves it alone. -/
  unanswered : w.evaluatesOn .enter = false → (w.frame .enter).history = w.history

/-! ## What a step does to the history -/

/-- A calculation, if there is one, in front of a history. -/
def remember (history : List Calculation) : Option Calculation → List Calculation
  | some c => (c :: history).take historyLimit
  | none => history

/-- **An evaluation deposits its calculation, if it succeeds.** -/
theorem history_evaluate (w : Window) :
    w.evaluate.history = remember w.history w.calculation? := by
  rw [evaluate, calculation?, ← map_fst_explain]
  cases explain w.entry <;> rfl

end Window

namespace Moment

open Window

theorem history_of_evaluates {m : Moment} (h : m.evaluates = true) :
    (m.window.step m.step).history = remember m.window.history m.window.calculation? :=
  (congrArg Record.history (record_of_evaluates h)).trans (history_evaluate m.window)

/-- **What is neither a reset nor a deposit nor an evaluation** leaves the history
alone. -/
theorem history_of_not_evaluates {m : Moment} (hreset : m.step.isReset = false)
    (hdeposit : m.step.isDeposit = false) (h : m.evaluates = false) :
    (m.window.step m.step).history = m.window.history := by
  obtain ⟨w, s⟩ := m
  cases s with
  | reset => cases hreset
  | deposit result explanation => cases hdeposit
  | setEntry t | clearEntry | clearResults | fail message => rfl
  | restore i => exact congrArg Record.history (record_restore w i)
  | frame input =>
    by_cases hinput : input = .enter
    · subst hinput
      show (w.frame .enter).history = w.history
      rw [frame_enter_of_not_evaluates h]
    · exact congrArg Record.history (record_frame_of_ne hinput)
  | click b =>
    have hgrant : w.grantFocus.history = w.history :=
      congrArg Record.history (record_grantFocus w)
    show (w.click b).history = w.history
    rw [click_eq, ← hgrant]
    cases b with
    | reset => cases hreset
    | equals => cases h
    | past i => exact congrArg Record.history (record_restore w.grantFocus i)
    | _ => rfl

/-- Without a result from outside only an evaluation deposits. -/
theorem deposited?_of_not_isDeposit {m : Moment} (h : m.step.isDeposit = false) :
    m.deposited? = if m.evaluates then m.window.calculation? else none := by
  obtain ⟨w, s⟩ := m
  cases s with
  | deposit result explanation => cases h
  | _ => rfl

/-- **A step that is no reset puts what it deposits in front of the history.** -/
theorem history_step {m : Moment} (hreset : m.step.isReset = false) :
    (m.window.step m.step).history = remember m.window.history m.deposited? := by
  cases hdeposit : m.step.isDeposit with
  | true =>
    obtain ⟨w, s⟩ := m
    cases s with
    | deposit result explanation => rfl
    | _ => cases hdeposit
  | false =>
    rw [deposited?_of_not_isDeposit hdeposit]
    cases h : m.evaluates with
    | true => exact history_of_evaluates h
    | false => exact history_of_not_evaluates hreset hdeposit h

/-- A reset leaves no history. -/
theorem history_of_isReset {m : Moment} (h : m.step.isReset = true) :
    (m.window.step m.step).history = [] := by
  obtain ⟨w, s⟩ := m
  cases s with
  | reset => rfl
  | click b =>
    cases b with
    | reset => rw [Window.step, click_eq]; rfl
    | _ => cases h
  | _ => cases h

/-- A step that could have been none of these leaves it alone as well. -/
theorem history_of_sparesHistory {m : Moment} (h : m.step.sparesHistory = true) :
    (m.window.step m.step).history = m.window.history := by
  simp only [Step.sparesHistory, Bool.and_eq_true, Bool.not_eq_true', decide_eq_true_eq] at h
  obtain ⟨⟨⟨hreset, hdeposit⟩, henter⟩, hequals⟩ := h
  refine history_of_not_evaluates hreset hdeposit ?_
  rw [Bool.eq_false_iff, ne_eq, evaluates_iff]
  rintro (⟨hs, -⟩ | hs)
  · exact henter hs
  · exact hequals hs

end Moment

namespace Window

/-! ## The history of a run -/

/-- One more step starts the log anew or adds to it what the step deposits. -/
theorem log_concat (w : Window) (steps : List Step) (s : Step) :
    w.log (steps ++ [s]) =
      if s.isReset then []
      else w.log steps ++ (Moment.deposited? ⟨w.run steps, s⟩).toList := by
  rw [log, moments_concat, Moment.since_concat]
  split
  · rfl
  · rw [List.filterMap_append, log]
    rfl

/-- Cutting a list before something is put in front of it and after is cutting it
after. -/
theorem remember_take (l : List Calculation) (c : Calculation) :
    remember (l.take historyLimit) (some c) = (c :: l).take historyLimit := by
  rw [remember, historyLimit, List.take_succ_cons, List.take_succ_cons, List.take_take]
  rfl

/-- **The history is the end of the log.** -/
theorem history_run {w : Window} (hw : w.history = []) (steps : List Step) :
    (w.run steps).history = (w.log steps).reverse.take historyLimit := by
  induction steps using List.reverseRecOn with
  | nil => rw [run_nil, hw]; rfl
  | append_singleton steps s ih =>
    rw [run_concat, log_concat]
    cases hreset : s.isReset with
    | true => exact Moment.history_of_isReset (m := ⟨w.run steps, s⟩) hreset
    | false =>
      have hhistory := Moment.history_step (m := ⟨w.run steps, s⟩) hreset
      rw [hhistory]
      show remember (w.run steps).history _ = _
      rw [ih]
      cases Moment.deposited? ⟨w.run steps, s⟩ with
      | none => simp [remember]
      | some c => simpa using remember_take (w.log steps).reverse c

/-- **The history over whole runs**: after any steps whatever the window remembers
the calculations deposited since the last reset, and what deposits none leaves
its history alone. -/
theorem fresh_run_remembers (steps : List Step) :
    (fresh.run steps).Remembers (fresh.log steps) where
  history_eq := history_run rfl steps
  length_le := by
    rw [history_run rfl steps]
    exact List.length_take_le ..
  spared s hs := Moment.history_of_sparesHistory (m := ⟨_, s⟩) hs
  failed s e hs he := by
    have hnone : (fresh.run steps).calculation? = none := by rw [calculation?, he]
    have hhistory := Moment.history_of_evaluates hs
    rw [hhistory, hnone]
    rfl
  unanswered h := Moment.history_of_not_evaluates (m := ⟨_, .frame .enter⟩) rfl rfl h

/-- The newest twelve of fourteen results put in from outside, and a calculation
between a reset and one that fails. -/
theorem fresh_run_remembers_newest :
    (fresh.run ((List.range 14).map fun n => .deposit (Decimal.ofNat n) {})).history
        = (List.range 12).map (fun i => ⟨[], Decimal.ofNat (13 - i)⟩)
      ∧ (fresh.run [.deposit "0".toList {}, .click .reset, .setEntry " 7/2 ".toList,
        .frame .enter, .setEntry "1/0".toList, .click .equals]).history
        = [⟨"7/2".toList, "3".toList⟩] :=
  ⟨(fresh_run_remembers _).history_eq.trans (by decide +kernel),
    (fresh_run_remembers _).history_eq.trans (by decide +kernel)⟩

/-! ## A past calculation made again -/

/-- **A window shows a calculation just made**, with the calculations made before
it behind it in the history. -/
structure Shows (w : Window) (c : Calculation) (before : List Calculation) : Prop where
  entry : w.entry = c.entry
  result : w.result = c.result
  error : w.error = []
  history : w.history = (c :: before).take historyLimit

/-- An entry that has a value is evaluated without an error. -/
theorem evaluate_of_calculation? {w : Window} {c : Calculation} (h : w.calculation? = some c) :
    w.evaluate.result = c.result ∧ w.evaluate.error = [] := by
  rw [calculation?, ← map_fst_explain] at h
  rw [evaluate]
  cases he : explain w.entry with
  | error e => rw [he] at h; cases h
  | ok p =>
    rw [he] at h
    obtain rfl := Option.some.inj h
    exact ⟨rfl, rfl⟩

/-- **The trimmed entry of a calculation gives that calculation again.** -/
theorem calculation?_of_entry_eq {v w : Window} {c : Calculation}
    (h : w.calculation? = some c) (hv : v.entry = c.entry) : v.calculation? = some c := by
  rw [calculation?] at h
  split at h
  · next n hn =>
    obtain rfl := Option.some.inj h
    have htrim : v.entry = w.entry.trim := hv
    have hcalculate : calculate v.entry = .ok n := by
      rw [htrim, ← map_fst_explain, explain_trim, map_fst_explain, hn]
    rw [calculation?, hcalculate, htrim, Text.trim_trim]
  · cases h

/-- **Every past calculation is that of an entry**, in a run without results from
outside. -/
theorem exists_of_mem_history {steps : List Step} (h : ∀ s ∈ steps, s.isDeposit = false)
    {c : Calculation} (hc : c ∈ (fresh.run steps).history) :
    ∃ w : Window, w.calculation? = some c := by
  rw [history_run rfl steps] at hc
  obtain ⟨m, hm, hdeposited⟩ :=
    List.mem_filterMap.mp (List.mem_reverse.mp (List.mem_of_mem_take hc))
  have hstep : m.step ∈ steps := step_mem_of_mem_moments (Moment.mem_of_mem_since hm)
  rw [Moment.deposited?_of_not_isDeposit (h m.step hstep)] at hdeposited
  split at hdeposited
  · exact ⟨m.window, hdeposited⟩
  · cases hdeposited

/-- **Evaluating an entry that has a value shows its calculation.** -/
theorem shows_of_evaluates {w : Window} {c : Calculation} (hvalue : w.calculation? = some c)
    (hentry : w.entry = c.entry) {s : Step} (h : Moment.evaluates ⟨w, s⟩ = true) :
    (w.step s).Shows c w.history := by
  obtain ⟨hresult, herror⟩ := evaluate_of_calculation? hvalue
  have hrecord := Moment.record_of_evaluates h
  have hhistory := Moment.history_of_evaluates h
  rw [hvalue] at hhistory
  exact {
    entry := (Moment.entry_of_evaluates h).trans hentry
    result := (congrArg Record.result hrecord).trans hresult
    error := (congrArg Record.error hrecord).trans herror
    history := hhistory }

/-- A click on a past calculation puts its entry into the field, which then asks
for the keyboard. -/
theorem click_past {w : Window} {i : Nat} {c : Calculation} (h : w.history[i]? = some c) :
    (w.click (.past i)).entry = c.entry ∧ (w.click (.past i)).record = w.record
      ∧ (w.click (.past i)).wantsFocus = true := by
  have hgrant : w.grantFocus.history[i]? = some c := by
    rw [← h]
    exact congrArg (·.history[i]?) (record_grantFocus w)
  rw [click_eq, press]
  refine ⟨?_, (record_restore _ i).trans (record_grantFocus w), wantsFocus_restore _ i⟩
  rw [restore, hgrant]

/-- **A past calculation brought back and evaluated gives itself again**, by the
enter key in the next frame and by the equals button. -/
theorem fresh_run_restored {steps : List Step} (hsteps : ∀ s ∈ steps, s.isDeposit = false)
    {i : Nat} {c : Calculation} (hc : (fresh.run steps).history[i]? = some c)
    {s : Step} (hs : s = .frame .enter ∨ s = .click .equals) :
    (fresh.run (steps ++ [.click (.past i), s])).Shows c (fresh.run steps).history := by
  obtain ⟨w, hw⟩ := exists_of_mem_history hsteps (List.mem_of_getElem? hc)
  obtain ⟨hentry, hrecord, hwants⟩ := click_past hc
  have hevaluates : Moment.evaluates ⟨(fresh.run steps).click (.past i), s⟩ = true :=
    Moment.evaluates_iff.mpr (hs.imp_left fun h => ⟨h, hwants⟩)
  have hshows := shows_of_evaluates (calculation?_of_entry_eq hw hentry) hentry hevaluates
  rw [show ((fresh.run steps).click (.past i)).history = (fresh.run steps).history from
    congrArg Record.history hrecord] at hshows
  rw [run_append]
  exact hshows

/-- An entry between blanks, an error from outside and another calculation: the
first one is still there to be made again. -/
theorem fresh_run_restored_blanks :
    Shows (fresh.run [.setEntry "\t7/2\u00a0".toList, .click .equals, .fail "?".toList,
        .setEntry "1".toList, .frame .enter, .click (.past 1), .frame .enter])
      ⟨"7/2".toList, "3".toList⟩
      [⟨"1".toList, "1".toList⟩, ⟨"7/2".toList, "3".toList⟩] := by
  let steps : List Step := [.setEntry "\t7/2\u00a0".toList, .click .equals, .fail "?".toList,
    .setEntry "1".toList, .frame .enter]
  have hhistory : (fresh.run steps).history
      = [⟨"1".toList, "1".toList⟩, ⟨"7/2".toList, "3".toList⟩] := by decide +kernel
  have hsteps : ∀ s ∈ steps, s.isDeposit = false := by decide
  have hpast : (fresh.run steps).history[1]? = some ⟨"7/2".toList, "3".toList⟩ := by
    rw [hhistory]
    rfl
  rw [← hhistory]
  exact fresh_run_restored hsteps hpast (.inl rfl)

end Window

end IntegerCalculator
