import IntegerCalculator.Proofs.Folding
import IntegerCalculator.Reading

/-!
# The levels that tokens spell

Tokens whose parentheses match **spell** a level: a number is an operand, an
operator is itself, and a group is the operand that the level inside it folds
to (`Spells`). Nothing is said of the order in which the tokens are looked at.

A reading does look at them in order, with the interrupted levels on a stack,
and `Reading.Tracks` says what that stack knows of the tokens read so far: they
are the spelling of the outermost level, then, for each parenthesis still open,
that parenthesis and the spelling of the level behind it. Every token keeps
this (`Reading.Tracks.read`), so every run of tokens does
(`Reading.tracks_of_readAll`). A tree is then read exactly when the tokens
spell a level that folds to it (`Tree.parse_eq_ok_iff`).
-/

namespace IntegerCalculator

/-- **The tokens spell the level**, each group inside being one operand. -/
inductive Spells : List Token → Level → Prop
  | nil : Spells [] []
  | number {digits : Text} {ts : List Token} {level : Level} :
      Decimal.isNumeral digits = true → Spells ts level →
        Spells (.number digits :: ts) (.operand (.leaf (Decimal.value digits)) :: level)
  | operator (o : Operator) {ts : List Token} {level : Level} :
      Spells ts level → Spells (.operator o :: ts) (.operator o :: level)
  | group {inner ts : List Token} {g level : Level} {t : Tree} :
      Spells inner g → g.toTree = .ok t → Spells ts level →
        Spells (.openParen :: (inner ++ .closeParen :: ts)) (.operand t :: level)

namespace Reading

/-- A closing parenthesis folds the level read since the last open one. -/
theorem read_closeParen (level : Level) (outer : List Item)
    (suspended : List (List Item)) :
    (⟨level.reverse, outer :: suspended⟩ : Reading).read .closeParen
      = level.toTree.map fun t => ⟨.operand t :: outer, suspended⟩ := by
  show (Level.toTree level.reverse.reverse).map _ = _
  rw [List.reverse_reverse]

/-- **A group is one operand**, once the reading gets through what stands
inside. -/
theorem readAll_group {inner : List Token} {g : Level}
    (hinner : ∀ r : Reading, r.readAll inner = .ok ⟨g.reverse ++ r.current, r.suspended⟩)
    (r : Reading) (ts : List Token) :
    r.readAll (.openParen :: (inner ++ .closeParen :: ts))
      = (g.toTree.map fun t => r.add (.operand t)) >>= fun s => s.readAll ts := by
  rw [readAll_cons]
  show (⟨[], r.current :: r.suspended⟩ : Reading).readAll _ = _
  rw [readAll_append, hinner, List.append_nil]
  refine (readAll_cons _ .closeParen ts).trans ?_
  rw [read_closeParen]
  rfl

end Reading

namespace Spells

theorem append {ts us : List Token} {l m : Level} (h : Spells ts l)
    (h' : Spells us m) : Spells (ts ++ us) (l ++ m) := by
  induction h with
  | nil => exact h'
  | number hd h ih => exact .number hd ih
  | operator o h ih => exact .operator o ih
  | group hg ht h ihg ih =>
    rw [List.cons_append, List.append_assoc]
    exact .group hg ht ih

/-- **A spelling is cut where its level is.** -/
theorem exists_of_append {ts : List Token} {l m : Level} (h : Spells ts (l ++ m)) :
    ∃ us vs, ts = us ++ vs ∧ Spells us l ∧ Spells vs m := by
  induction l generalizing ts with
  | nil => exact ⟨[], ts, rfl, .nil, h⟩
  | cons i l ih =>
    cases h with
    | number hd h =>
      obtain ⟨us, vs, rfl, hl, hm⟩ := ih h
      exact ⟨_ :: us, vs, rfl, .number hd hl, hm⟩
    | operator o h =>
      obtain ⟨us, vs, rfl, hl, hm⟩ := ih h
      exact ⟨_ :: us, vs, rfl, .operator o hl, hm⟩
    | @group inner _ _ _ _ hg ht h =>
      obtain ⟨us, vs, rfl, hl, hm⟩ := ih h
      exact ⟨.openParen :: (inner ++ .closeParen :: us), vs, by simp, .group hg ht hl, hm⟩

/-- **A reading gets through a spelling with the items of its level**, and
leaves the levels set aside as they were. -/
theorem readAll {ts : List Token} {level : Level} (h : Spells ts level) (r : Reading) :
    r.readAll ts = .ok ⟨level.reverse ++ r.current, r.suspended⟩ := by
  induction h generalizing r with
  | nil => rfl
  | number hd h ih =>
    rw [Reading.readAll_cons, Reading.read, Tree.ofDigits_of_isNumeral hd]
    refine (ih _).trans ?_
    simp [Reading.add]
  | operator o h ih =>
    rw [Reading.readAll_cons, Reading.read]
    refine (ih _).trans ?_
    simp [Reading.add]
  | group hg ht h ihg ih =>
    rw [Reading.readAll_group ihg, ht]
    refine (ih _).trans ?_
    simp [Reading.add]

/-- **Tokens spell one level at most.** -/
theorem unique {ts : List Token} {l m : Level} (hl : Spells ts l) (hm : Spells ts m) :
    l = m := by
  have h := (hl.readAll .start).symm.trans (hm.readAll .start)
  simpa [Reading.start] using h

end Spells

namespace Reading

/-- **What a reading knows of the tokens read so far**: the levels set aside
and the current one, each behind the parenthesis that opened it. -/
inductive Tracks : Reading → List Token → Prop
  | outermost {ts : List Token} {level : Level} :
      Spells ts level → Tracks ⟨level.reverse, []⟩ ts
  | inner {ts us : List Token} {outer : List Item} {suspended : List (List Item)}
      {level : Level} :
      Tracks ⟨outer, suspended⟩ ts → Spells us level →
        Tracks ⟨level.reverse, outer :: suspended⟩ (ts ++ .openParen :: us)

namespace Tracks

variable {r s : Reading} {ts us : List Token}

/-- More tokens of the current level. -/
theorem append {level : Level} (h : r.Tracks ts) (hus : Spells us level) :
    (⟨level.reverse ++ r.current, r.suspended⟩ : Reading).Tracks (ts ++ us) := by
  cases h with
  | outermost hts =>
    rw [← List.reverse_append]
    exact .outermost (hts.append hus)
  | inner hts hvs =>
    rw [← List.reverse_append, List.append_assoc]
    exact .inner hts (hvs.append hus)

/-- **One token keeps the reading on track.** -/
theorem read (h : r.Tracks ts) {t : Token} (hs : r.read t = .ok s) :
    s.Tracks (ts ++ [t]) := by
  cases t with
  | number digits =>
    by_cases hd : Decimal.isNumeral digits = true
    · rw [Reading.read, Tree.ofDigits_of_isNumeral hd] at hs
      cases hs
      exact h.append (.number hd .nil)
    · rw [Reading.read, Tree.ofDigits, if_neg hd] at hs
      cases hs
  | operator o =>
    cases hs
    exact h.append (.operator o .nil)
  | openParen =>
    cases hs
    exact .inner h .nil
  | closeParen =>
    cases h with
    | outermost hts => cases hs
    | @inner ts us outer suspended level hts hus =>
      rw [read_closeParen] at hs
      obtain ⟨t, ht, rfl⟩ := exists_of_map_eq_ok hs
      rw [List.append_assoc]
      exact hts.append (.group hus ht .nil)

/-- What is on track is what the reading of the tokens gives. -/
theorem readAll (h : r.Tracks ts) : start.readAll ts = .ok r := by
  induction h with
  | outermost hts => simpa [start] using hts.readAll start
  | inner hts hus ih =>
    rw [readAll_append, ih]
    refine (readAll_cons _ .openParen _).trans ?_
    rw [Reading.read]
    refine (hus.readAll _).trans ?_
    simp

end Tracks

theorem start_tracks : start.Tracks [] := .outermost .nil

/-- **A run of tokens keeps the reading on track.** -/
theorem Tracks.run {r s : Reading} {ts us : List Token} (h : r.Tracks ts)
    (hs : r.readAll us = .ok s) : s.Tracks (ts ++ us) := by
  induction us generalizing r ts with
  | nil =>
    cases hs
    rwa [List.append_nil]
  | cons t us ih =>
    rw [readAll_cons] at hs
    obtain ⟨r', hr, hs⟩ := exists_of_bind_eq_ok hs
    have := ih (h.read hr) hs
    rwa [List.append_assoc] at this

/-- **What the tokens lead to tracks them**, and nothing else does. -/
theorem readAll_eq_ok_iff_tracks {ts : List Token} {r : Reading} :
    start.readAll ts = .ok r ↔ r.Tracks ts :=
  ⟨fun h => start_tracks.run h, fun h => h.readAll⟩

end Reading

/-- **What a spelling leads to** is what its level folds to, errors included. -/
theorem Spells.parse {ts : List Token} {level : Level} (h : Spells ts level)
    (hne : ts ≠ []) : Tree.parse ts = level.toTree := by
  rw [Tree.parse_of_ne_nil hne, h.readAll]
  show Reading.finish ⟨level.reverse ++ [], []⟩ = _
  simp [Reading.finish, Reading.level]

/-- **The tree of a list of tokens** is the tree of the level they spell. -/
theorem Tree.parse_eq_ok_iff {ts : List Token} {t : Tree} :
    Tree.parse ts = .ok t ↔ ∃ level, Spells ts level ∧ level.toTree = .ok t := by
  constructor
  · intro h
    have hne : ts ≠ [] := by
      rintro rfl
      cases h
    rw [Tree.parse_of_ne_nil hne] at h
    obtain ⟨r, hr, hfinish⟩ := exists_of_bind_eq_ok h
    cases Reading.readAll_eq_ok_iff_tracks.mp hr with
    | @outermost _ level hl =>
      refine ⟨level, hl, ?_⟩
      rwa [← level.reverse_reverse]
    | inner => cases hfinish
  · rintro ⟨level, hl, ht⟩
    have hne : ts ≠ [] := by
      rintro rfl
      cases hl
      cases ht
    exact (hl.parse hne).trans ht

end IntegerCalculator
