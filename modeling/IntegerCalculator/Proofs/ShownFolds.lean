import IntegerCalculator.Proofs.FoldOrder
import IntegerCalculator.Proofs.Observation

/-!
# Which folds the tokens show

A level is folded when the parenthesis that closes it is read, and the outermost
level at the end. So the folds that tokens show are those of their levels, one
level after the other, in the order of the closing parentheses
(`Reading.filterMap_shows`). A level is folded for every parenthesis that closes
a group and has no fault before it (`Reading.Tracks.mem_closed_iff`), even if the
level has no tree and is the last to be folded; and the outermost level is folded
if the tokens spell one.

Of each of these levels the order and the positions of its folds are told by the
level alone.
-/

namespace IntegerCalculator

/-- The fold that an event is, if it is one. -/
def Event.fold? : Event → Option Fold
  | .folded f => some f
  | _ => none

theorem filterMap_fold?_map_folded (folds : List Fold) :
    (folds.map Event.folded).filterMap Event.fold? = folds := by
  rw [List.filterMap_map]
  exact List.filterMap_some

/-- **The token of this index closes a group of this level**, whose items the
tokens since its open parenthesis spell. -/
def ClosesGroup (ts : List Token) (i : Nat) (level : Level) : Prop :=
  ts[i]? = some .closeParen
    ∧ ∃ outer inner, ts.take i = outer ++ .openParen :: inner ∧ Spells inner level

/-- **The levels that are folded**: the groups, each with the index of the token
that closes it, and the outermost level if the reading gets to it. -/
structure FoldsLevels (ts : List Token) (groups : List (Nat × Level))
    (outermost : Option Level) : Prop where
  /-- The groups are listed as they are closed. -/
  ordered : groups.Pairwise fun g g' => g.1 < g'.1
  /-- They are the groups that are closed before anything is at fault. -/
  mem_iff (i : Nat) (level : Level) :
    (i, level) ∈ groups ↔ ClosesGroup ts i level ∧ ∀ j < i, ¬ FaultAt ts j
  /-- The outermost level is the one that all tokens spell. -/
  outermost_iff (level : Level) : outermost = some level ↔ Spells ts level

namespace Reading

/-- The level that a token closes. -/
def closes? (r : Reading) : Token → Option Level
  | .closeParen =>
    match r.suspended with
    | [] => none
    | _ :: _ => some r.level
  | _ => none

/-- **The groups that the tokens close**, the first token being at this
index. -/
def closed (r : Reading) (index : Nat) : List Token → List (Nat × Level)
  | [] => []
  | t :: ts =>
    ((r.closes? t).map fun level => (index, level)).toList ++
      match r.read t with
      | .ok r => r.closed (index + 1) ts
      | .error _ => []

/-- The level that is left at the end of the tokens. -/
def outermost (r : Reading) : List Token → Option Level
  | [] =>
    match r.suspended with
    | [] => some r.level
    | _ :: _ => none
  | t :: ts =>
    match r.read t with
    | .ok r => r.outermost ts
    | .error _ => none

variable {r : Reading} {t : Token} {us vs : List Token} {level : Level}

/-- A token shows the folds of the level that it closes. -/
theorem filterMap_observe (r : Reading) (index : Nat) (t : Token) :
    (r.observe index t).filterMap Event.fold? = (r.closes? t).toList.flatMap Level.folds := by
  obtain ⟨current, suspended⟩ := r
  cases t with
  | closeParen =>
    cases suspended with
    | nil => rfl
    | cons outer suspended =>
      exact (filterMap_fold?_map_folded _).trans (List.flatMap_singleton ..).symm
  | _ => rfl

/-- **The tokens show the folds of the levels that they close**, and then of the
outermost one. -/
theorem filterMap_shows (r : Reading) (index : Nat) (ts : List Token) :
    (r.shows index ts).filterMap Event.fold?
      = ((r.closed index ts).map Prod.snd ++ (r.outermost ts).toList).flatMap Level.folds := by
  induction ts generalizing r index with
  | nil =>
    obtain ⟨current, suspended⟩ := r
    cases suspended with
    | nil => exact (filterMap_fold?_map_folded _).trans (List.flatMap_singleton ..).symm
    | cons outer suspended => rfl
  | cons t ts ih =>
    have hfirst : (((r.closes? t).map fun level => (index, level)).toList).map Prod.snd
        = (r.closes? t).toList := by
      cases r.closes? t <;> rfl
    rw [shows, closed, outermost, List.filterMap_append, filterMap_observe, List.map_append,
      hfirst, List.append_assoc, List.flatMap_append]
    cases r.read t with
    | error e => rfl
    | ok s => exact congrArg _ (ih s (index + 1))

/-! ## The groups that are closed -/

theorem le_of_mem_closed {index : Nat} {g : Nat × Level} {ts : List Token}
    (h : g ∈ r.closed index ts) : index ≤ g.1 := by
  induction ts generalizing r index with
  | nil => cases h
  | cons t ts ih =>
    rw [closed, List.mem_append] at h
    rcases h with h | h
    · obtain ⟨level, -, rfl⟩ := Option.map_eq_some_iff.mp (Option.mem_toList.mp h)
      exact Nat.le_refl _
    · cases hs : r.read t with
      | error e =>
        rw [hs] at h
        cases h
      | ok s =>
        rw [hs] at h
        exact Nat.le_of_succ_le (ih h)

/-- **The groups come in the order in which they are closed.** -/
theorem pairwise_closed (r : Reading) (index : Nat) (ts : List Token) :
    (r.closed index ts).Pairwise fun g g' => g.1 < g'.1 := by
  induction ts generalizing r index with
  | nil => exact .nil
  | cons t ts ih =>
    rw [closed, List.pairwise_append]
    refine ⟨?_, ?_, fun g hg g' hg' => ?_⟩
    · cases r.closes? t with
      | none => exact .nil
      | some level => exact List.pairwise_singleton _ _
    · cases r.read t with
      | error e => exact .nil
      | ok s => exact ih s (index + 1)
    · obtain ⟨level, -, rfl⟩ := Option.map_eq_some_iff.mp (Option.mem_toList.mp hg)
      cases hs : r.read t with
      | error e =>
        rw [hs] at hg'
        cases hg'
      | ok s =>
        rw [hs] at hg'
        exact le_of_mem_closed hg'

/-- **A token closes the level that the tokens since the last open parenthesis
spell**, if one is open. -/
theorem Tracks.closes?_eq_some_iff (h : r.Tracks us) (vs : List Token) :
    r.closes? t = some level ↔ ClosesGroup (us ++ t :: vs) us.length level := by
  rw [ClosesGroup, List.take_left, List.getElem?_append_right (Nat.le_refl _), Nat.sub_self,
    List.getElem?_cons_zero, Option.some.injEq]
  cases t with
  | closeParen =>
    cases h with
    | outermost hts =>
      constructor
      · intro h
        cases h
      · rintro ⟨-, outer, inner, rfl, hinner⟩
        exact absurd hts.balanced hinner.balanced.not_openParen_inside
    | @inner ts us outer suspended level' hts hus =>
      have hlevel : (⟨level'.reverse, outer :: suspended⟩ : Reading).closes? .closeParen
          = some level' := congrArg some level'.reverse_reverse
      rw [hlevel, Option.some.injEq]
      constructor
      · rintro rfl
        exact ⟨rfl, ts, us, rfl, hus⟩
      · rintro ⟨-, outer', inner, heq, hinner⟩
        obtain rfl := hus.balanced.unique hinner.balanced heq
        exact hus.unique hinner
  | _ => simp [closes?]

/-- **Exactly those groups are closed that nothing at fault comes before.** -/
theorem Tracks.mem_closed_iff (h : r.Tracks us) {i : Nat} :
    (i, level) ∈ r.closed us.length vs
      ↔ us.length ≤ i ∧ ClosesGroup (us ++ vs) i level ∧ ∀ j < i, ¬ FaultAt (us ++ vs) j := by
  induction vs generalizing r us with
  | nil =>
    constructor
    · intro hmem
      cases hmem
    · rintro ⟨hi, ⟨hclose, -⟩, -⟩
      rw [List.append_nil, List.getElem?_eq_none hi] at hclose
      cases hclose
  | cons t vs ih =>
    have hfirst : (i, level) ∈ ((r.closes? t).map fun level => (us.length, level)).toList
        ↔ i = us.length ∧ ClosesGroup (us ++ t :: vs) i level := by
      rw [Option.mem_toList, Option.map_eq_some_iff]
      constructor
      · rintro ⟨level, hlevel, heq⟩
        cases heq
        exact ⟨rfl, (h.closes?_eq_some_iff vs).mp hlevel⟩
      · rintro ⟨rfl, hclose⟩
        exact ⟨level, (h.closes?_eq_some_iff vs).mpr hclose, rfl⟩
    have hrest : (i, level) ∈ (match r.read t with
        | .ok r => r.closed (us.length + 1) vs
        | .error _ => [])
        ↔ us.length < i ∧ ClosesGroup (us ++ t :: vs) i level
          ∧ ∀ j < i, ¬ FaultAt (us ++ t :: vs) j := by
      cases hs : r.read t with
      | error e =>
        have hfault : FaultAt (us ++ t :: vs) us.length :=
          ⟨t, by simp, by rw [List.take_left]; exact h.fault_iff.mpr ⟨e, hs⟩⟩
        constructor
        · intro hmem
          cases hmem
        · rintro ⟨hi, -, hsound⟩
          exact absurd hfault (hsound _ hi)
      | ok s =>
        have := ih (h.read hs)
        rwa [List.length_append, List.append_assoc] at this
    rw [closed, List.mem_append, hfirst, hrest]
    constructor
    · rintro (⟨rfl, hclose⟩ | ⟨hi, hclose, hsound⟩)
      · exact ⟨Nat.le_refl _, hclose, fun j hj => h.not_faultAt _ hj⟩
      · exact ⟨Nat.le_of_lt hi, hclose, hsound⟩
    · rintro ⟨hi, hclose, hsound⟩
      rcases Nat.eq_or_lt_of_le hi with rfl | hi
      · exact .inl ⟨rfl, hclose⟩
      · exact .inr ⟨hi, hclose, hsound⟩

theorem outermost_eq_some_iff {ts : List Token} :
    r.outermost ts = some level
      ↔ ∃ s, r.readAll ts = .ok s ∧ s.suspended = [] ∧ s.level = level := by
  induction ts generalizing r with
  | nil =>
    obtain ⟨current, suspended⟩ := r
    cases suspended <;> simp [outermost]
  | cons t ts ih =>
    rw [outermost, readAll_cons]
    cases r.read t with
    | error e =>
      constructor
      · intro h
        cases h
      · rintro ⟨s, hs, -⟩
        cases hs
    | ok s => exact ih

/-- **At the end the level is left that all tokens spell.** -/
theorem outermost_start_eq_some_iff {ts : List Token} :
    start.outermost ts = some level ↔ Spells ts level := by
  rw [outermost_eq_some_iff]
  constructor
  · rintro ⟨s, hs, hsuspended, rfl⟩
    cases readAll_eq_ok_iff_tracks.mp hs with
    | @outermost ts level hts =>
      show Spells ts level.reverse.reverse
      rwa [List.reverse_reverse]
    | inner => cases hsuspended
  · intro h
    exact ⟨_, h.readAll start, rfl, by simp [Reading.level, start]⟩

/-- **The folds that the tokens show are those of these levels.** -/
theorem exists_foldsLevels (ts : List Token) :
    ∃ groups outermost, FoldsLevels ts groups outermost
      ∧ (start.observeAll 0 [] ts).filterMap Event.fold?
        = (groups.map Prod.snd ++ outermost.toList).flatMap Level.folds := by
  refine ⟨start.closed 0 ts, start.outermost ts, ?_, ?_⟩
  · exact {
      ordered := pairwise_closed _ _ _
      mem_iff := fun i level =>
        start_tracks.mem_closed_iff.trans (and_iff_right (Nat.zero_le i))
      outermost_iff := fun level => outermost_start_eq_some_iff }
  · rw [observeAll_eq]
    exact filterMap_shows start 0 ts

end Reading

/-- **Group by group, pass by pass, from left to right.**

The folds that the tokens show are those of their levels: the groups as they are
closed, the outermost level last. On a level each place of an operator is looked
at once, from left to right. If no operator lacks an operand, each place of each
operator has a fold, the operators in the order of the passes. Otherwise the
operators before the one that is blamed have theirs, and it has those up to the
first place where it lacks an operand.

The position of a fold is told by what stands to the left of its place: the
operands, and the operators that are folded later, less the operators that are
folded by then, less one. Where the level has a tree, that is twice the number
of operators folded later. -/
theorem folds_group_by_group :
    (∀ ts : List Token, ∃ groups outermost, FoldsLevels ts groups outermost
        ∧ (Reading.start.observeAll 0 [] ts).filterMap Event.fold?
          = (groups.map Prod.snd ++ outermost.toList).flatMap Level.folds)
      ∧ ∀ level : Level,
        (∀ o, (level.places o).Pairwise (fun p q => p.before.length < q.before.length)
            ∧ ∀ p, p ∈ level.places o ↔ level = p.before ++ .operator o :: p.after)
          ∧ ((∀ c, level.toTree ≠ .error (.missingOperand c)) →
            level.folds.map Fold.signed
              = Operator.passOrder.flatMap fun o => (level.places o).map (Level.Place.fold o))
          ∧ (∀ c, level.toTree = .error (.missingOperand c) →
            level.lacks c = true
              ∧ level.folds.map Fold.signed
                = ((Operator.passOrder.takeWhile (· ≠ c)).flatMap fun o =>
                    (level.places o).map (Level.Place.fold o))
                  ++ ((level.places c).takeWhile Level.Place.isSupplied).map
                    (Level.Place.fold c))
          ∧ ∀ t, level.toTree = .ok t → ∀ o, ∀ p ∈ level.places o,
            p.fold o = (o, 2 * (p.before.countP (Item.isAfter o) : Int)) :=
  ⟨Reading.exists_foldsLevels, fun level =>
    ⟨fun o => ⟨Level.pairwise_places o level, fun _ => Level.mem_places_iff⟩,
      Level.map_signed_folds_of_complete, fun _ => Level.map_signed_folds_of_missingOperand,
      fun _ ht _ _ => Level.fold_of_toTree ht⟩⟩

/-- In `( 8 - 2 + 3 ) * 5 / -` the group is folded first, its sum before its
difference. On the outermost level the product is folded, and the quotient,
which lacks an operand, is not. -/
theorem folds_group_by_group_missing :
    ∃ group level groups outermost,
      FoldsLevels [.openParen, .number ['8'], .operator .sub, .number ['2'], .operator .add,
          .number ['3'], .closeParen, .operator .mul, .number ['5'], .operator .div,
          .operator .sub] groups outermost
        ∧ (6, group) ∈ groups ∧ outermost = some level
        ∧ group.folds.map Fold.signed = [(.add, 2), (.sub, 0)]
        ∧ level.folds.map Fold.signed = [(.mul, 0)] := by
  have hgroup : Spells [.number ['8'], .operator .sub, .number ['2'], .operator .add,
      .number ['3']] _ :=
    .number rfl (.operator .sub (.number rfl (.operator .add (.number rfl .nil))))
  have hlevel : Spells (.openParen :: ([.number ['8'], .operator .sub, .number ['2'],
      .operator .add, .number ['3']] ++ .closeParen :: [.operator .mul, .number ['5'],
      .operator .div, .operator .sub])) _ :=
    .group hgroup rfl (.operator .mul (.number rfl (.operator .div (.operator .sub .nil))))
  have hbefore := Reading.Tracks.inner (.outermost .nil) hgroup
  obtain ⟨htokens, hlevels⟩ := folds_group_by_group
  obtain ⟨groups, outermost, hfolds, -⟩ := htokens
    [.openParen, .number ['8'], .operator .sub, .number ['2'], .operator .add, .number ['3'],
      .closeParen, .operator .mul, .number ['5'], .operator .div, .operator .sub]
  refine ⟨_, _, groups, outermost, hfolds, (hfolds.mem_iff 6 _).mpr
    ⟨⟨rfl, [], _, rfl, hgroup⟩, fun j hj => hbefore.not_faultAt _ hj⟩,
    (hfolds.outermost_iff _).mpr hlevel, ?_, ?_⟩
  · refine ((hlevels _).2.1 fun c h => ?_).trans rfl
    cases Level.toTree_eq_missingOperand_iff.mp h
  · exact ((hlevels _).2.2.1 .div rfl).2.trans rfl

end IntegerCalculator
