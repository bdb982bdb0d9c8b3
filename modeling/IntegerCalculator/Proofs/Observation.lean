import IntegerCalculator.Event
import IntegerCalculator.Proofs.Concatenation
import IntegerCalculator.Proofs.Evaluation
import IntegerCalculator.Proofs.Failure

/-!
# What the events tell of the outcome

The events of a calculation are a count of tokens, then folds, then an ending.
Each stage that is reached adds to them, so the ending tells how far the
calculation went: a tree and its value, a tree alone, a parenthesis that closes
nothing, or none of these (`Trace`).

A token that is read shows folds only, as many as the operators it uses up: what
is `unfolded` on the current level and on the levels set aside is paid for by
the operators read, less the folds shown (`Reading.exists_folds_of_readAll`). A
tree leaves nothing unfolded, hence one fold for each operator of the text. A
token that is refused shows the folds of the level it closes, or that it is
stray.
-/

namespace IntegerCalculator

/-- Whether a token is an operator. -/
def Token.isOperator : Token → Bool
  | .operator _ => true
  | _ => false

namespace Reading

/-! ## The events of a reading, one token after the other -/

/-- **What the tokens show**, the first of them being at this index. -/
def shows (r : Reading) (index : Nat) : List Token → List Event
  | [] => r.observeEnd
  | t :: ts =>
    r.observe index t ++
      match r.read t with
      | .ok r => r.shows (index + 1) ts
      | .error _ => []

/-- **What is noted is put behind what was noted before.** -/
theorem observeAll_eq (r : Reading) (index : Nat) (done : List Event) (ts : List Token) :
    r.observeAll index done ts = done.reverse ++ r.shows index ts := by
  induction ts generalizing r index done with
  | nil => simp [observeAll, shows, List.reverseAux_eq]
  | cons t ts ih =>
    rw [observeAll, shows]
    cases r.read t with
    | error e => simp [List.reverseAux_eq]
    | ok s => simp [ih, List.reverseAux_eq]

/-- **The operators read and not folded yet**, on all levels. -/
def unfolded (r : Reading) : Nat :=
  r.current.countP Item.isOperator + r.suspended.flatten.countP Item.isOperator

variable {r s : Reading} {t : Token} {ts us : List Token} {e : CalcError}

/-- **A token that is read shows the folds of a level**, and these are the
operators that it uses up. -/
theorem exists_folds_of_read (h : r.read t = .ok s) (index : Nat) :
    ∃ folds : List Fold, r.observe index t = folds.map .folded
      ∧ folds.length + s.unfolded = r.unfolded + [t].countP Token.isOperator := by
  obtain ⟨current, suspended⟩ := r
  cases t with
  | number digits =>
    obtain ⟨tree, -, rfl⟩ := exists_of_map_eq_ok h
    exact ⟨[], rfl, by simp [unfolded, add, Token.isOperator]⟩
  | operator o =>
    cases h
    refine ⟨[], rfl, ?_⟩
    rw [unfolded, add, Item.countP_operator_cons, List.length_nil, Nat.zero_add,
      Nat.add_right_comm]
    rfl
  | openParen =>
    cases h
    exact ⟨[], rfl, by simp [unfolded, Token.isOperator]⟩
  | closeParen =>
    cases suspended with
    | nil => cases h
    | cons outer suspended =>
      obtain ⟨tree, htree, rfl⟩ := exists_of_map_eq_ok h
      have hfolds := Level.length_folds_of_toTree htree
      rw [level, List.countP_reverse] at hfolds
      refine ⟨_, rfl, ?_⟩
      simp only [level, hfolds, unfolded, Item.countP_operand_cons, List.flatten_cons,
        List.countP_append]
      rfl

/-- **Tokens that are read show folds**, and these are the operators that they
use up. -/
theorem exists_folds_of_readAll (h : r.readAll us = .ok s) (index : Nat) :
    ∃ folds : List Fold,
      folds.length + s.unfolded = r.unfolded + us.countP Token.isOperator
        ∧ ∀ vs, r.shows index (us ++ vs)
            = folds.map .folded ++ s.shows (index + us.length) vs := by
  induction us generalizing r index with
  | nil =>
    cases h
    exact ⟨[], by simp, fun vs => rfl⟩
  | cons t us ih =>
    rw [readAll_cons] at h
    obtain ⟨r', hr, h⟩ := exists_of_bind_eq_ok h
    obtain ⟨folds, hobserve, hcount⟩ := exists_folds_of_read hr index
    obtain ⟨more, hmore, hshows⟩ := ih h (index + 1)
    refine ⟨folds ++ more, ?_, fun vs => ?_⟩
    · rw [← List.singleton_append, List.countP_append, List.length_append]
      omega
    · rw [List.cons_append, shows, hr, hobserve, List.map_append, List.append_assoc,
        List.length_cons, Nat.add_comm us.length, ← Nat.add_assoc]
      exact congrArg _ (hshows vs)

/-- A token that is refused is the last to show anything. -/
theorem shows_of_read_eq_error (h : r.read t = .error e) (index : Nat) (ts : List Token) :
    r.shows index (t :: ts) = r.observe index t := by
  rw [shows, h, List.append_nil]

/-- A token that is not stray shows folds only. -/
theorem exists_observe_eq (h : ¬ (t = .closeParen ∧ r.suspended = [])) (index : Nat) :
    ∃ folds : List Fold, r.observe index t = folds.map .folded := by
  obtain ⟨current, suspended⟩ := r
  cases t with
  | closeParen =>
    cases suspended with
    | nil => exact absurd ⟨rfl, rfl⟩ h
    | cons outer suspended => exact ⟨_, rfl⟩
  | _ => exact ⟨[], rfl⟩

/-- **The end shows folds only**, and if there is a tree, all that were
missing. -/
theorem exists_observeEnd_eq (r : Reading) :
    ∃ folds : List Fold, r.observeEnd = folds.map .folded
      ∧ ∀ tree, r.finish = .ok tree → folds.length = r.unfolded := by
  obtain ⟨current, suspended⟩ := r
  cases suspended with
  | nil =>
    refine ⟨_, rfl, fun tree htree => ?_⟩
    rw [Level.length_folds_of_toTree htree]
    simp [level, unfolded]
  | cons outer suspended =>
    refine ⟨[], rfl, fun tree htree => ?_⟩
    cases htree

end Reading

/-- **A stray parenthesis that ends the reading is the last event.** -/
theorem exists_shows_of_stopsAtStray {ts : List Token} {i : Nat} (h : StopsAtStray ts i) :
    ∃ folds : List Fold,
      Reading.start.shows 0 ts = folds.map .folded ++ [.strayClose i] := by
  obtain ⟨r, us, t, vs, e, rfl, rfl, hr, he⟩ := h.1.exists_refused
  obtain ⟨rfl, hsus⟩ := (hr.strayAt_iff vs).mp h.2
  obtain ⟨folds, -, hfolds⟩ := Reading.exists_folds_of_readAll hr.readAll 0
  refine ⟨folds, ?_⟩
  rw [hfolds, Reading.shows_of_read_eq_error he, Nat.zero_add, Reading.observe, hsus]

/-- **Otherwise there are folds only**, and a tree takes one for each operator. -/
theorem exists_shows_of_not_stopsAtStray {ts : List Token}
    (h : ∀ i, ¬ StopsAtStray ts i) :
    ∃ folds : List Fold, Reading.start.shows 0 ts = folds.map .folded
      ∧ ∀ t, Tree.parse ts = .ok t → folds.length = ts.countP Token.isOperator := by
  rcases exists_firstFault_or ts with ⟨i, hi⟩ | hsound
  -- a token is refused that is not stray: it shows the folds of the level it closes
  · obtain ⟨r, us, t, vs, e, rfl, rfl, hr, he⟩ := hi.exists_refused
    have hstray := mt (hr.strayAt_iff vs).mpr fun hs => h _ ⟨hi, hs⟩
    obtain ⟨folds, -, hfolds⟩ := Reading.exists_folds_of_readAll hr.readAll 0
    obtain ⟨more, hmore⟩ := Reading.exists_observe_eq hstray us.length
    refine ⟨folds ++ more, ?_, fun tree htree => ?_⟩
    · rw [hfolds, Reading.shows_of_read_eq_error he, Nat.zero_add, hmore, List.map_append]
    · rw [Tree.parse_of_read_error hr he vs] at htree
      cases htree
  -- the reading gets to the end, which shows the folds of the outermost level
  · obtain ⟨r, hr⟩ := Reading.exists_tracks_take (n := ts.length) fun i _ => hsound i
    rw [List.take_length] at hr
    obtain ⟨folds, hcount, hfolds⟩ := Reading.exists_folds_of_readAll hr.readAll 0
    obtain ⟨more, hmore, hend⟩ := r.exists_observeEnd_eq
    refine ⟨folds ++ more, ?_, fun tree htree => ?_⟩
    · have hshows := hfolds []
      rw [List.append_nil] at hshows
      rw [hshows, Reading.shows, hmore, List.map_append]
    · have hne : ts ≠ [] := by
        rintro rfl
        cases htree
      rw [Tree.parse_of_ne_nil hne, hr.readAll] at htree
      rw [List.length_append, hend tree htree, hcount]
      exact Nat.zero_add _

/-! ## The outcome -/

/-- **The events of a calculation**: a count of tokens, these folds and this
ending. -/
structure Trace (s : Text) (folds : List Fold) (ending : List Event) : Prop where
  events_eq : events s = .tokenized (tokenize s).length :: (folds.map .folded ++ ending)
  /-- Without a tree, nothing follows but perhaps a stray parenthesis. -/
  of_error {e : CalcError} : Tree.parse (tokenize s) = .error e →
    ending = [] ∨ ∃ i, ending = [.strayClose i]
  /-- It follows exactly when it ended the reading. -/
  strayClose_iff (i : Nat) : ending = [.strayClose i] ↔ StopsAtStray (tokenize s) i
  /-- A tree that has a value is followed by it. -/
  of_value {t : Tree} {v : Int} : Tree.parse (tokenize s) = .ok t → t.evaluate = .ok v →
    ending = [.built t.height, .reduced v]
  /-- A tree that has none is the last event. -/
  of_no_value {t : Tree} {e : CalcError} : Tree.parse (tokenize s) = .ok t →
    t.evaluate = .error e → ending = [.built t.height]
  /-- A tree takes one fold for each operator. -/
  length_folds {t : Tree} : Tree.parse (tokenize s) = .ok t →
    folds.length = (tokenize s).countP Token.isOperator

/-- The events of a text, the reading told token by token. -/
theorem events_eq (s : Text) :
    events s = .tokenized (tokenize s).length :: (Reading.start.shows 0 (tokenize s) ++
      match Tree.parse (tokenize s) with
      | .ok t => t.observe
      | .error _ => []) := by
  rw [events, Reading.observeAll_eq]
  rfl

/-- **Every calculation has such events.** -/
theorem exists_trace (s : Text) : ∃ folds ending, Trace s folds ending := by
  have hevents := events_eq s
  by_cases hstray : ∃ i, StopsAtStray (tokenize s) i
  · obtain ⟨i, hi⟩ := hstray
    have hparse := Tree.parse_of_stopsAtStray hi
    obtain ⟨folds, hshows⟩ := exists_shows_of_stopsAtStray hi
    rw [hparse, hshows, List.append_nil] at hevents
    have hok {t : Tree} : Tree.parse (tokenize s) ≠ .ok t := by simp [hparse]
    exact ⟨folds, [.strayClose i], {
      events_eq := hevents
      of_error := fun _ => .inr ⟨i, rfl⟩
      strayClose_iff := fun j => by
        constructor
        · intro h
          cases h
          exact hi
        · intro hj
          rw [hi.1.unique hj.1]
      of_value := fun h => absurd h hok
      of_no_value := fun h => absurd h hok
      length_folds := fun h => absurd h hok }⟩
  · have hnone := not_exists.mp hstray
    obtain ⟨folds, hshows, hlength⟩ := exists_shows_of_not_stopsAtStray hnone
    rw [hshows] at hevents
    refine ⟨folds, _, {
      events_eq := hevents
      of_error := fun h => .inl (by rw [h])
      strayClose_iff := fun i => ⟨fun h => ?_, fun h => absurd h (hnone i)⟩
      of_value := fun h hv => by simp only [h, Tree.observe, hv, Tree.levels_eq_height]
      of_no_value := fun h he => by simp only [h, Tree.observe, he, Tree.levels_eq_height]
      length_folds := hlength _ }⟩
    cases hparse : Tree.parse (tokenize s) with
    | error e =>
      rw [hparse] at h
      cases h
    | ok t =>
      rw [hparse] at h
      cases h

/-- **Every error but a division by zero is an error of reading.** -/
theorem calculate_eq_error_iff {s : Text} {e : CalcError} (he : e ≠ .divisionByZero) :
    calculate s = .error e ↔ Tree.parse (tokenize s) = .error e := by
  refine ⟨fun h => ?_, calculate_of_parse_error⟩
  cases hparse : Tree.parse (tokenize s) with
  | error x =>
    rw [calculate_of_parse_error hparse] at h
    exact congrArg Except.error (Except.error.inj h)
  | ok t =>
    rw [calculate_of_parse hparse, t.evaluate_eq_value] at h
    exact absurd (Tree.eq_divisionByZero_of_value h) he

/-- **Outcome and events of a text.**

A text is empty input when no token is made of any of its characters; a number
is never malformed; and an error of reading, wherever it is, comes before any
division by zero. Parentheses are unbalanced for one of two reasons, and only
one of them is seen in the events: a stray parenthesis that is the first fault
is noted last, and no stray one stands before it. -/
theorem outcome_and_events (s : Text) :
    (calculate s = .error .emptyInput ↔ ∀ c ∈ s, c ∉ Token.characters)
      ∧ (∀ digits, calculate s ≠ .error (.malformedNumber digits))
      ∧ (∀ e, Tree.parse (tokenize s) = .error e →
        calculate s = .error e ∧ e ≠ .divisionByZero)
      ∧ (∀ t, Tree.parse (tokenize s) = .ok t → calculate s = t.evaluate)
      ∧ (calculate s = .error .divisionByZero → ∃ t, Tree.parse (tokenize s) = .ok t)
      ∧ (calculate s = .error .unbalancedParentheses
        ↔ (∃ i, StopsAtStray (tokenize s) i)
          ∨ (Unclosed (tokenize s) ∧ ∀ i, ¬ FaultAt (tokenize s) i))
      ∧ (∀ i, StopsAtStray (tokenize s) i → ∀ j < i, ¬ StrayAt (tokenize s) j)
      ∧ ∃ folds ending, Trace s folds ending := by
  have hnumeral : ∀ digits, .number digits ∈ tokenize s → Decimal.isNumeral digits = true :=
    fun _ => isNumeral_of_number_mem_tokenize
  refine ⟨?_, fun digits h => ?_, fun e h => ⟨calculate_of_parse_error h, ?_⟩,
    fun t => calculate_of_parse, fun h => ?_, ?_, fun i hi j => hi.not_strayAt, exists_trace s⟩
  · rw [calculate_eq_error_iff (by decide), Tree.parse_eq_emptyInput_iff, tokenize_eq_nil_iff]
  · rw [calculate_eq_error_iff (by simp)] at h
    exact Tree.parse_ne_malformedNumber hnumeral digits h
  · rintro rfl
    exact Tree.parse_ne_divisionByZero _ h
  · cases hparse : Tree.parse (tokenize s) with
    | ok t => exact ⟨t, rfl⟩
    | error e =>
      rw [calculate_of_parse_error hparse] at h
      cases h
      exact absurd hparse (Tree.parse_ne_divisionByZero _)
  · rw [calculate_eq_error_iff (by decide), Tree.parse_eq_unbalanced_iff]

/-- In `1/0)` the stray parenthesis comes before the division by zero, which
`6/(2-2)` ends with. -/
theorem outcome_and_events_stray :
    calculate "1/0)".toList = .error .unbalancedParentheses
      ∧ (∃ folds : List Fold, events "1/0)".toList
          = .tokenized 4 :: (folds.map .folded ++ [.strayClose 3]))
      ∧ calculate "6/(2-2)".toList = .error .divisionByZero
      ∧ ∃ folds : List Fold, folds.length = 2
          ∧ events "6/(2-2)".toList = .tokenized 7 :: (folds.map .folded ++ [.built 3]) := by
  have hspells : Spells [.number ['1'], .operator .div, .number ['0']]
      [.operand (.leaf (Decimal.value ['1'])), .operator .div,
        .operand (.leaf (Decimal.value ['0']))] :=
    .number rfl (.operator .div (.number rfl .nil))
  have hstops : StopsAtStray (tokenize "1/0)".toList) 3 :=
    (Reading.Tracks.outermost hspells).stopsAtStray rfl []
  let tree : Tree := .node (.leaf 6) .div (.node (.leaf 2) .sub (.leaf 2))
  have htokens : tokenize "6/(2-2)".toList = [.number ['6'], .operator .div, .openParen,
      .number ['2'], .operator .sub, .number ['2'], .closeParen] := by decide +kernel
  have hsix : Decimal.value ['6'] = 6 := by decide +kernel
  have htwo : Decimal.value ['2'] = 2 := by decide +kernel
  have hparse : Tree.parse (tokenize "6/(2-2)".toList) = .ok tree := by
    rw [htokens]
    show Except.ok (Tree.node (.leaf (Decimal.value ['6'])) .div
      (.node (.leaf (Decimal.value ['2'])) .sub (.leaf (Decimal.value ['2'])))) = _
    rw [hsix, htwo]
    rfl
  have hvalue : tree.evaluate = .error .divisionByZero := Tree.evaluate_eq_value tree
  obtain ⟨-, -, -, -, -, hunbalanced, -, folds, ending, htrace⟩ :=
    outcome_and_events "1/0)".toList
  obtain ⟨-, -, -, hcalculate, -, -, -, folds', ending', htrace'⟩ :=
    outcome_and_events "6/(2-2)".toList
  refine ⟨hunbalanced.mpr (.inl ⟨3, hstops⟩), ⟨folds, ?_⟩, ?_, folds', ?_, ?_⟩
  · rw [htrace.events_eq, (htrace.strayClose_iff 3).mpr hstops]
    rfl
  · rw [hcalculate _ hparse, hvalue]
  · exact htrace'.length_folds hparse
  · rw [htrace'.events_eq, htrace'.of_no_value hparse hvalue]
    rfl

end IntegerCalculator
