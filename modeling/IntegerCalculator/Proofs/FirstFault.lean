import IntegerCalculator.Proofs.Nesting

/-!
# The first fault

Several things can be wrong with one list of tokens, and the answer names one of
them. Reading from the left, a token is at **fault** when it is a number that is
no numeral, when it closes a parenthesis that was never opened, or when it closes
a group whose items are not an operand, then operators each followed by an
operand. The first token at fault decides, whatever follows it. Without any, an
open parenthesis at the end decides, whatever is wrong on the levels left open;
and only then the outermost level is looked at.

All this is said of the tokens alone: parentheses match by counting them
(`Balanced`), and the items of a group are found by their depth (`shape`). That
it is what a reading does rests on `Reading.Tracks`: the level on top of the
stack is spelled by the tokens behind the last parenthesis still open, and no
other parenthesis before it leaves balanced tokens behind (`Balanced.unique`).
-/

namespace IntegerCalculator

/-! ## Parentheses and items -/

/-- **The parentheses match**: as many are closed as opened, and nowhere on the
way more. -/
def Balanced (ts : List Token) : Prop :=
  ts.count .closeParen = ts.count .openParen
    ∧ ∀ us vs, ts = us ++ vs → us.count .closeParen ≤ us.count .openParen

/-- The items at depth 0, when the tokens begin at the given depth: `true` for an
operand, `false` for an operator. A group is one operand. -/
def shapeFrom : Nat → List Token → List Bool
  | _, [] => []
  | 0, .number _ :: ts => true :: shapeFrom 0 ts
  | 0, .operator _ :: ts => false :: shapeFrom 0 ts
  | 0, .openParen :: ts => true :: shapeFrom 1 ts
  | 0, .closeParen :: ts => shapeFrom 0 ts
  | d + 1, .openParen :: ts => shapeFrom (d + 2) ts
  | d + 1, .closeParen :: ts => shapeFrom d ts
  | d + 1, _ :: ts => shapeFrom (d + 1) ts

/-- **The items directly on the level of the tokens**, whether each is an
operand. -/
def shape (ts : List Token) : List Bool := shapeFrom 0 ts

/-- **An operand, then any number of operators with an operand behind each.** -/
def Alternates (s : List Bool) : Prop :=
  ∃ n, s = true :: (List.replicate n [false, true]).flatten

/-- Whether an item is an operand. -/
def Item.isOperand : Item → Bool
  | .operand _ => true
  | .operator _ => false

/-- Nothing inside a group is an item of the level around it. -/
theorem Spells.shapeFrom_succ {ts us : List Token} {level : Level} (h : Spells ts level)
    (d : Nat) : shapeFrom (d + 1) (ts ++ us) = shapeFrom (d + 1) us := by
  induction h generalizing d us with
  | nil => rfl
  | number hd h ih => exact ih d
  | operator o h ih => exact ih d
  | @group inner ts g level t hg ht h ihg ih =>
    show shapeFrom (d + 2) ((inner ++ .closeParen :: ts) ++ us) = _
    rw [List.append_assoc, ihg (d + 1)]
    exact ih d

/-- **The items of a level have the shape of its tokens.** -/
theorem Spells.shape_eq {ts : List Token} {level : Level} (h : Spells ts level) :
    shape ts = level.map Item.isOperand := by
  induction h with
  | nil => rfl
  | number hd h ih => exact congrArg (true :: ·) ih
  | operator o h ih => exact congrArg (false :: ·) ih
  | @group inner ts g level t hg ht h ihg ih =>
    show true :: shapeFrom 1 (inner ++ .closeParen :: ts) = _
    rw [hg.shapeFrom_succ 0]
    exact congrArg (true :: ·) ih

/-- An open parenthesis in front is one more opened. -/
theorem count_openParen_cons (ts : List Token) :
    (Token.openParen :: ts).count .openParen = ts.count .openParen + 1
      ∧ (Token.openParen :: ts).count .closeParen = ts.count .closeParen := by
  simp

/-- A closing one is one more closed. -/
theorem count_closeParen_cons (ts : List Token) :
    (Token.closeParen :: ts).count .openParen = ts.count .openParen
      ∧ (Token.closeParen :: ts).count .closeParen = ts.count .closeParen + 1 := by
  simp

namespace Balanced

theorem nil : Balanced [] := by
  refine ⟨rfl, fun us vs h => ?_⟩
  rw [(List.append_eq_nil_iff.mp h.symm).1]
  exact Nat.le_refl _

/-- A token that is no parenthesis changes nothing. -/
theorem cons {t : Token} {ts : List Token} (hopen : t ≠ .openParen)
    (hclose : t ≠ .closeParen) (h : Balanced ts) : Balanced (t :: ts) := by
  refine ⟨?_, fun us vs heq => ?_⟩
  · rw [List.count_cons_of_ne hopen, List.count_cons_of_ne hclose, h.1]
  · cases us with
    | nil => exact Nat.le_refl _
    | cons u us =>
      obtain ⟨rfl, hts⟩ := List.cons.inj heq
      rw [List.count_cons_of_ne hopen, List.count_cons_of_ne hclose]
      exact h.2 us vs hts

/-- **A group in front of balanced tokens.** -/
theorem group {inner ts : List Token} (hinner : Balanced inner) (h : Balanced ts) :
    Balanced (.openParen :: (inner ++ .closeParen :: ts)) := by
  have hcount := hinner.1
  refine ⟨?_, fun us vs heq => ?_⟩
  · have := h.1
    simp only [List.count_append, count_openParen_cons, count_closeParen_cons]
    omega
  · cases us with
    | nil => exact Nat.le_refl _
    | cons u us =>
      obtain ⟨rfl, htail⟩ := List.cons.inj heq
      -- the cut falls behind the group, or inside it
      rcases List.append_eq_append_iff.mp htail with ⟨ws, rfl, hws⟩ | ⟨ws, rfl, -⟩
      · cases ws with
        | nil =>
          simp only [List.append_nil, count_openParen_cons]
          omega
        | cons w ws =>
          obtain ⟨rfl, hts⟩ := List.cons.inj hws
          have := h.2 ws vs hts
          simp only [List.count_append, count_openParen_cons, count_closeParen_cons]
          omega
      · have := hinner.2 us ws rfl
        simp only [count_openParen_cons]
        omega

/-- Balanced tokens do not end in a parenthesis left open. -/
theorem not_openParen_inside {us inner : List Token} (h : Balanced inner) :
    ¬ Balanced (us ++ .openParen :: inner) := by
  intro h'
  have htotal := h'.1
  have hinner := h.1
  have hus := h'.2 us _ rfl
  simp only [List.count_append, count_openParen_cons] at htotal
  omega

/-- **Only one open parenthesis has balanced tokens behind it.** -/
theorem unique {outer outer' inner inner' : List Token} (h : Balanced inner)
    (h' : Balanced inner')
    (heq : outer ++ .openParen :: inner = outer' ++ .openParen :: inner') :
    inner = inner' := by
  rcases List.append_eq_append_iff.mp heq with ⟨us, -, hus⟩ | ⟨us, -, hus⟩
  · cases us with
    | nil => exact (List.cons.inj hus).2
    | cons u us =>
      obtain ⟨-, rfl⟩ := List.cons.inj hus
      exact absurd h h'.not_openParen_inside
  · cases us with
    | nil => exact (List.cons.inj hus).2.symm
    | cons u us =>
      obtain ⟨-, rfl⟩ := List.cons.inj hus
      exact absurd h' h.not_openParen_inside

end Balanced

/-- **The parentheses of a spelling match.** -/
theorem Spells.balanced {ts : List Token} {level : Level} (h : Spells ts level) :
    Balanced ts := by
  induction h with
  | nil => exact .nil
  | number hd h ih => exact .cons nofun nofun ih
  | operator o h ih => exact .cons nofun nofun ih
  | group hg ht h ihg ih => exact .group ihg ih

/-- Operators with an operand behind each, read off the items or off their
shape. -/
theorem map_isOperand_eq_iff {n : Nat} {level : Level} :
    level.map Item.isOperand = (List.replicate n [false, true]).flatten
      ↔ ∃ links : List (Operator × Tree),
          links.length = n ∧ level = links.flatMap Chain.linkItems := by
  constructor
  · intro h
    induction n generalizing level with
    | zero => exact ⟨[], rfl, List.map_eq_nil_iff.mp h⟩
    | succ n ih =>
      rw [List.replicate_succ, List.flatten_cons] at h
      obtain ⟨i, level, rfl, hi, h⟩ := List.map_eq_cons_iff.mp h
      obtain ⟨j, level, rfl, hj, h⟩ := List.map_eq_cons_iff.mp h
      obtain ⟨links, rfl, rfl⟩ := ih h
      cases i with
      | operand t => cases hi
      | operator o =>
        cases j with
        | operator o' => cases hj
        | operand t => exact ⟨(o, t) :: links, rfl, rfl⟩
  · rintro ⟨links, rfl, rfl⟩
    induction links with
    | nil => rfl
    | cons p links ih =>
      rw [List.flatMap_cons, List.map_append, ih]
      rfl

/-- **A level has a tree exactly when its items alternate.** -/
theorem Level.exists_toTree_iff {level : Level} :
    (∃ t, level.toTree = .ok t) ↔ Alternates (level.map Item.isOperand) := by
  constructor
  · rintro ⟨t, ht⟩
    obtain ⟨⟨x, links⟩, rfl, -⟩ := Level.toTree_eq_ok_iff.mp ht
    exact ⟨links.length,
      congrArg (true :: ·) (map_isOperand_eq_iff.mpr ⟨links, rfl, rfl⟩)⟩
  · rintro ⟨n, hn⟩
    obtain ⟨i, level, rfl, hi, h⟩ := List.map_eq_cons_iff.mp hn
    obtain ⟨links, -, rfl⟩ := map_isOperand_eq_iff.mp h
    cases i with
    | operator o => cases hi
    | operand t => exact Level.exists_toTree_items ⟨t, links⟩

/-! ## Faults -/

/-- **What can be wrong with a token**, given the tokens before it. -/
inductive Fault (before : List Token) : Token → Prop
  /-- A number that is no nonempty run of digits. -/
  | number {digits : Text} :
      ¬ (digits ≠ [] ∧ ∀ c ∈ digits, c.isDigit = true) → Fault before (.number digits)
  /-- A closing parenthesis with nothing to close. -/
  | close : before.count .closeParen = before.count .openParen → Fault before .closeParen
  /-- A closing parenthesis of a group whose items do not alternate. -/
  | group {outer inner : List Token} :
      before = outer ++ .openParen :: inner → Balanced inner → ¬ Alternates (shape inner) →
        Fault before .closeParen

/-- **What is reported of a token.** A group reports whatever the passes over
its level do. -/
inductive Reported (before : List Token) : Token → CalcError → Prop
  | number {digits : Text} :
      ¬ (digits ≠ [] ∧ ∀ c ∈ digits, c.isDigit = true) →
        Reported before (.number digits) (.malformedNumber digits)
  | close : before.count .closeParen = before.count .openParen →
      Reported before .closeParen .unbalancedParentheses
  | group {outer inner : List Token} {level : Level} {e : CalcError} :
      before = outer ++ .openParen :: inner → Spells inner level →
        level.toTree = .error e → Reported before .closeParen e

/-- The token of this index is at fault. -/
def FaultAt (ts : List Token) (i : Nat) : Prop :=
  ∃ t, ts[i]? = some t ∧ Fault (ts.take i) t

/-- **Some parenthesis is never closed**: whatever closing parenthesis follows
it, the tokens between them are not balanced. -/
def Unclosed (ts : List Token) : Prop :=
  ∃ outer rest, ts = outer ++ .openParen :: rest
    ∧ ∀ inner tail, rest = inner ++ .closeParen :: tail → ¬ Balanced inner

namespace Reading

namespace Tracks

variable {r : Reading} {ts : List Token}

/-- **As many parentheses are open as levels are set aside.** -/
theorem count_openParen (h : r.Tracks ts) :
    ts.count .openParen = ts.count .closeParen + r.suspended.length := by
  induction h with
  | outermost hts => exact hts.balanced.1.symm
  | inner hts hus ih =>
    have := hus.balanced.1
    simp only [List.count_append, count_openParen_cons, List.length_cons] at ih ⊢
    omega

/-- **A token is refused exactly with what is reported of it.** -/
theorem read_eq_error_iff (h : r.Tracks ts) {t : Token} {e : CalcError} :
    r.read t = .error e ↔ Reported ts t e := by
  cases t with
  | number digits =>
    by_cases hd : Decimal.isNumeral digits = true
    · rw [Reading.read, Tree.ofDigits_of_isNumeral hd]
      constructor
      · intro h
        cases h
      · intro h
        cases h with
        | number hn => exact absurd (Decimal.isNumeral_iff.mp hd) hn
    · rw [Reading.read, Tree.ofDigits, if_neg hd]
      constructor
      · intro h
        cases h
        exact .number (mt Decimal.isNumeral_iff.mpr hd)
      · intro h
        cases h
        rfl
  | operator o => constructor <;> intro h <;> cases h
  | openParen => constructor <;> intro h <;> cases h
  | closeParen =>
    cases h with
    | outermost hts =>
      constructor
      · intro h
        cases h
        exact .close hts.balanced.1
      · intro h
        cases h with
        | close => rfl
        | group heq hinner he =>
          exact absurd (heq ▸ hts.balanced) hinner.balanced.not_openParen_inside
    | @inner ts us outer suspended level hts hus =>
      rw [read_closeParen]
      constructor
      · intro h
        cases htree : level.toTree with
        | ok t =>
          rw [htree] at h
          cases h
        | error e' =>
          rw [htree] at h
          cases h
          exact .group rfl hus htree
      · intro h
        cases h with
        | close hcount =>
          have := (Tracks.inner hts hus).count_openParen
          simp only [List.length_cons] at this
          omega
        | group heq hinner he =>
          obtain rfl := hus.balanced.unique hinner.balanced heq
          rw [hus.unique hinner, he]
          rfl

/-- **A token is at fault exactly when it is refused.** -/
theorem fault_iff (h : r.Tracks ts) {t : Token} :
    Fault ts t ↔ ∃ e, r.read t = .error e := by
  constructor
  · intro hfault
    cases hfault with
    | number hn => exact ⟨_, h.read_eq_error_iff.mpr (.number hn)⟩
    | close hcount => exact ⟨_, h.read_eq_error_iff.mpr (.close hcount)⟩
    | group heq hinner hshape =>
      cases h with
      | outermost hts => exact absurd (heq ▸ hts.balanced) hinner.not_openParen_inside
      | @inner ts us outer suspended level hts hus =>
        obtain rfl := hus.balanced.unique hinner heq
        rw [hus.shape_eq, ← Level.exists_toTree_iff] at hshape
        cases htree : level.toTree with
        | ok t => exact absurd ⟨t, htree⟩ hshape
        | error e =>
          exact ⟨e, (Tracks.inner hts hus).read_eq_error_iff.mpr (.group rfl hus htree)⟩
  · rintro ⟨e, he⟩
    cases h.read_eq_error_iff.mp he with
    | number hn => exact .number hn
    | close hcount => exact .close hcount
    | group heq hinner he =>
      refine .group heq hinner.balanced fun halt => ?_
      rw [hinner.shape_eq, ← Level.exists_toTree_iff] at halt
      obtain ⟨t, ht⟩ := halt
      rw [he] at ht
      cases ht

end Tracks

/-- **Without a fault the reading goes on.** -/
theorem exists_tracks_take {ts : List Token} {n : Nat} (h : ∀ i < n, ¬ FaultAt ts i) :
    ∃ r : Reading, r.Tracks (ts.take n) := by
  induction n with
  | zero => exact ⟨start, start_tracks⟩
  | succ n ih =>
    obtain ⟨r, hr⟩ := ih fun i hi => h i (Nat.lt_succ_of_lt hi)
    rw [List.take_add_one]
    cases ht : ts[n]? with
    | none => exact ⟨r, by rwa [Option.toList_none, List.append_nil]⟩
    | some t =>
      cases hs : r.read t with
      | error e => exact absurd ⟨t, ht, hr.fault_iff.mpr ⟨e, hs⟩⟩ (h n (Nat.lt_succ_self n))
      | ok s => exact ⟨s, hr.read hs⟩

end Reading

/-! ## The answer -/

/-- Every parenthesis of a spelling is closed. -/
theorem Spells.not_unclosed {ts : List Token} {level : Level} (h : Spells ts level) :
    ¬ Unclosed ts := by
  rintro ⟨outer, rest, heq, hopen⟩
  induction h generalizing outer rest with
  | nil => simp at heq
  | number hd h ih =>
    cases outer with
    | nil => cases heq
    | cons t outer => exact ih outer rest (List.cons.inj heq).2 hopen
  | operator o h ih =>
    cases outer with
    | nil => cases heq
    | cons t outer => exact ih outer rest (List.cons.inj heq).2 hopen
  | @group inner ts g level t hg ht h ihg ih =>
    cases outer with
    | nil => exact hopen inner ts (List.cons.inj heq).2.symm hg.balanced
    | cons t outer =>
      -- the parenthesis stands inside the group, or behind it
      have htail := (List.cons.inj heq).2
      rcases List.append_eq_append_iff.mp htail with ⟨us, -, hus⟩ | ⟨us, rfl, hus⟩
      · cases us with
        | nil => cases hus
        | cons u us => exact ih us rest (List.cons.inj hus).2 hopen
      · cases us with
        | nil => cases hus
        | cons u us =>
          obtain ⟨rfl, rfl⟩ := List.cons.inj hus
          refine ihg outer us rfl fun inner tail hinner => ?_
          refine hopen inner (tail ++ .closeParen :: ts) ?_
          rw [hinner]
          exact List.append_assoc ..

/-- **A level set aside is a parenthesis that nothing closes.** -/
theorem Reading.Tracks.unclosed_iff {r : Reading} {ts : List Token} (h : r.Tracks ts) :
    Unclosed ts ↔ r.suspended ≠ [] := by
  cases h with
  | outermost hts => exact ⟨fun h => absurd h hts.not_unclosed, fun h => absurd rfl h⟩
  | @inner ts us outer suspended level hts hus =>
    refine ⟨fun _ => List.cons_ne_nil _ _, fun _ => ⟨ts, us, rfl, fun inner tail heq => ?_⟩⟩
    intro hinner
    have hprefix := hus.balanced.2 (inner ++ [.closeParen]) tail (by simp [heq])
    have hcount := hinner.1
    simp only [List.count_append, count_closeParen_cons] at hprefix
    simp only [List.count_nil] at hprefix
    omega

namespace Tree

/-- A token that is refused ends the reading, whatever follows it. -/
theorem parse_of_read_error {r : Reading} {ts : List Token} (h : r.Tracks ts) {t : Token}
    {e : CalcError} (he : r.read t = .error e) (us : List Token) :
    Tree.parse (ts ++ t :: us) = .error e := by
  rw [Tree.parse_of_ne_nil (by simp), Reading.readAll_append, h.readAll]
  show (r.readAll (t :: us)) >>= Reading.finish = _
  rw [Reading.readAll_cons, he]
  rfl

/-- Tokens without a fault are parsed by the reading that they lead to. -/
theorem exists_tracks_of_not_fault {ts : List Token} (hne : ts ≠ [])
    (h : ∀ i, ¬ FaultAt ts i) :
    ∃ r : Reading, r.Tracks ts ∧ Tree.parse ts = r.finish := by
  obtain ⟨r, hr⟩ := Reading.exists_tracks_take (n := ts.length) fun i _ => h i
  rw [List.take_length] at hr
  refine ⟨r, hr, ?_⟩
  rw [Tree.parse_of_ne_nil hne, hr.readAll]
  rfl

/-- **Which fault is reported.**

No token at all is an error of its own. Otherwise the first token at fault
decides, and no token behind it matters; without one, a parenthesis that is
never closed; and without that, the passes over the outermost level. -/
theorem parse_first_fault (ts : List Token) :
    (ts = [] → Tree.parse ts = .error .emptyInput)
      ∧ (∀ i t, FaultAt ts i → (∀ j < i, ¬ FaultAt ts j) → ts[i]? = some t →
        (∃ e, Reported (ts.take i) t e)
          ∧ ∀ e, Reported (ts.take i) t e →
            Tree.parse ts = .error e
              ∧ ∀ us, Tree.parse (ts.take (i + 1) ++ us) = .error e)
      ∧ (ts ≠ [] → (∀ i, ¬ FaultAt ts i) → Unclosed ts →
        Tree.parse ts = .error .unbalancedParentheses)
      ∧ (ts ≠ [] → (∀ i, ¬ FaultAt ts i) → ¬ Unclosed ts →
        ∃ level, Spells ts level ∧ Tree.parse ts = level.toTree) := by
  refine ⟨?_, fun i t hfault hfirst ht => ?_, fun hne hsound hopen => ?_,
    fun hne hsound hclosed => ?_⟩
  · rintro rfl
    rfl
  · obtain ⟨r, hr⟩ := Reading.exists_tracks_take hfirst
    obtain ⟨t', ht', hfault⟩ := hfault
    obtain rfl : t = t' := Option.some.inj (ht.symm.trans ht')
    obtain ⟨e, he⟩ := hr.fault_iff.mp hfault
    refine ⟨⟨e, hr.read_eq_error_iff.mp he⟩, fun e he => ?_⟩
    have hall : ∀ us, Tree.parse (ts.take (i + 1) ++ us) = .error e := by
      intro us
      rw [List.take_add_one, ht, Option.toList_some, List.append_assoc]
      exact parse_of_read_error hr (hr.read_eq_error_iff.mpr he) us
    refine ⟨?_, hall⟩
    have := hall (ts.drop (i + 1))
    rwa [List.take_append_drop] at this
  · obtain ⟨r, hr, hparse⟩ := exists_tracks_of_not_fault hne hsound
    rw [hparse, Reading.finish]
    cases hsus : r.suspended with
    | nil => exact absurd hsus (hr.unclosed_iff.mp hopen)
    | cons outer suspended => rfl
  · obtain ⟨r, hr, hparse⟩ := exists_tracks_of_not_fault hne hsound
    have hsus := mt hr.unclosed_iff.mpr hclosed
    cases hr with
    | inner => exact absurd (List.cons_ne_nil _ _) hsus
    | @outermost _ level hts =>
      refine ⟨level, hts, ?_⟩
      rw [hparse]
      show Level.toTree level.reverse.reverse = _
      rw [List.reverse_reverse]

/-- In `( 1 + ) )` both closing parentheses are wrong, and the first one
decides. -/
theorem parse_first_fault_group :
    Tree.parse [.openParen, .number ['1'], .operator .add, .closeParen, .closeParen]
      = .error (.missingOperand .add) := by
  let ts : List Token :=
    [.openParen, .number ['1'], .operator .add, .closeParen, .closeParen]
  have hbefore : ts.take 3 = [] ++ .openParen :: [.number ['1'], .operator .add] := rfl
  have hinner : Spells [.number ['1'], .operator .add]
      [.operand (.leaf (Decimal.value ['1'])), .operator .add] :=
    .number rfl (.operator .add .nil)
  have hshape : ¬ Alternates (shape [.number ['1'], .operator .add]) := by
    rintro ⟨n, hn⟩
    cases n <;> simp [shape, shapeFrom, List.replicate_succ] at hn
  have hfault : FaultAt ts 3 :=
    ⟨.closeParen, rfl, .group hbefore hinner.balanced hshape⟩
  have hfirst : ∀ j < 3, ¬ FaultAt ts j := by
    rintro j hj ⟨t, ht, hfault⟩
    obtain rfl | rfl | rfl : j = 0 ∨ j = 1 ∨ j = 2 := by omega
    · cases ht
      cases hfault
    · cases ht
      obtain ⟨hn⟩ := hfault
      exact hn (Decimal.isNumeral_iff.mp rfl)
    · cases ht
      cases hfault
  have hreported : Reported (ts.take 3) .closeParen (.missingOperand .add) :=
    .group hbefore hinner rfl
  exact (((parse_first_fault ts).2.1 3 .closeParen hfault hfirst rfl).2 _ hreported).1

end Tree

end IntegerCalculator
