import IntegerCalculator.Proofs.Places

/-!
# What one pass does to a level

A pass knows two kinds of items: its own operator with the operands on either
side, and everything else. Cut the level accordingly into **segments**: an
operator of another pass is a segment by itself, and so is every longest
**stretch** of operands with the operator of the pass between neighbours, down
to a single operand that has no such neighbour. A pass leaves the operators of
other passes and makes one operand of each stretch, nested to the left
(`Level.Segment.folded`).

Not every level can be cut like this: wherever the operator of the pass stands, it
has to stand inside a stretch. The levels that can be cut are the ones that the
pass gets through (`Level.pass_eq_ok_iff`). It does not matter what the other
operators stand next to, nor whether two operands stand side by side.

That no stretch could be longer comes for free. A segment neither begins nor ends
with the operator of the pass, so that operator stands neither in front of a
stretch nor behind it (`Level.IsCut.of_not_mem`).
-/

namespace IntegerCalculator

namespace Level

/-- **A segment of a level**, seen by the pass of one operator. -/
inductive Segment where
  /-- An operator of another pass. -/
  | kept (o : Operator)
  /-- Operands with the operator of the pass between neighbours. -/
  | stretch (first : Tree) (rest : List Tree)
  deriving DecidableEq

namespace Segment

/-- What a segment looks like on the level. -/
def items (op : Operator) : Segment → Level
  | kept o => [.operator o]
  | stretch first rest => .operand first :: rest.flatMap fun t => [.operator op, .operand t]

/-- **What the pass makes of a segment**: a stretch is nested to the left. -/
def folded (op : Operator) : Segment → Item
  | kept o => .operator o
  | stretch first rest => .operand (rest.foldl (fun l r => .node l op r) first)

variable {op : Operator}

/-- A segment does not begin with the operator of the pass. -/
theorem exists_items_eq_cons {s : Segment} (hs : kept op ≠ s) :
    ∃ i rest, s.items op = i :: rest ∧ i ≠ .operator op := by
  cases s with
  | kept o => exact ⟨.operator o, [], rfl, fun heq => hs (by cases heq; rfl)⟩
  | stretch first rest => exact ⟨.operand first, _, rfl, Item.noConfusion⟩

/-- A segment does not end with the operator of the pass. -/
theorem exists_items_eq_concat {s : Segment} (hs : kept op ≠ s) :
    ∃ front i, s.items op = front ++ [i] ∧ i ≠ .operator op := by
  cases s with
  | kept o => exact ⟨[], .operator o, rfl, fun heq => hs (by cases heq; rfl)⟩
  | stretch first rest =>
    rcases List.eq_nil_or_concat rest with rfl | ⟨rest, t, rfl⟩
    · exact ⟨[], .operand first, rfl, Item.noConfusion⟩
    · exact ⟨(stretch first rest).items op ++ [.operator op], .operand t, by simp [items],
        Item.noConfusion⟩

/-- **What follows a segment is not the operator of the pass.** -/
theorem head?_ne {segments : List Segment} (h : kept op ∉ segments) :
    (segments.flatMap (items op)).head? ≠ some (.operator op) := by
  cases segments with
  | nil => simp
  | cons s segments =>
    obtain ⟨i, rest, hitems, hi⟩ := exists_items_eq_cons (List.ne_of_not_mem_cons h)
    rw [List.flatMap_cons, hitems]
    exact fun heq => hi (Option.some.inj heq)

/-- **What precedes a segment is not the operator of the pass.** -/
theorem getLast?_ne {segments : List Segment} (h : kept op ∉ segments) :
    (segments.flatMap (items op)).getLast? ≠ some (.operator op) := by
  rcases List.eq_nil_or_concat segments with rfl | ⟨segments, s, rfl⟩
  · simp
  · have hs : kept op ≠ s := fun heq => h (by simp [heq])
    obtain ⟨front, i, hitems, hi⟩ := exists_items_eq_concat hs
    rw [List.concat_eq_append, List.flatMap_append, List.flatMap_singleton, hitems,
      ← List.append_assoc, List.getLast?_concat]
    exact fun heq => hi (Option.some.inj heq)

end Segment

/-- **The level is cut into these segments**: operators of other passes, and the
longest stretches of operands joined by `op`. -/
structure IsCut (op : Operator) (level : Level) (segments : List Segment) : Prop where
  /-- The segments make up the level. -/
  items_eq : segments.flatMap (Segment.items op) = level
  /-- The operator of the pass is nowhere a segment by itself. -/
  kept_not_mem : .kept op ∉ segments
  /-- A stretch goes on neither to the left nor to the right. -/
  longest : ∀ before first rest after, segments = before ++ .stretch first rest :: after →
    (before.flatMap (Segment.items op)).getLast? ≠ some (.operator op)
    ∧ (after.flatMap (Segment.items op)).head? ≠ some (.operator op)

section

variable {op : Operator} {level : Level} {segments : List Segment}

/-- **Where the operator of the pass is no segment by itself, stretches are as
long as they can be.** -/
theorem IsCut.of_not_mem (h : .kept op ∉ segments) :
    IsCut op (segments.flatMap (Segment.items op)) segments where
  items_eq := rfl
  kept_not_mem := h
  longest before first rest after hsegments := by
    subst hsegments
    exact ⟨Segment.getLast?_ne (mt (List.mem_append_left _) h),
      Segment.head?_ne fun hafter =>
        h (List.mem_append_right before (List.mem_cons_of_mem _ hafter))⟩

/-! ## From the segments to what is put out -/

/-- **A pass goes through a segment and puts out what it makes of it**, whatever
has been put out before and whatever follows. -/
theorem passFrom_segment {s : Segment} (hs : .kept op ≠ s) (out : List Item) (rest : Level) :
    passFrom op out (s.items op ++ rest) = passFrom op (s.folded op :: out) rest := by
  cases s with
  | kept o =>
    have ho : o ≠ op := by
      rintro rfl
      exact hs rfl
    exact passFrom_operator_of_ne ho out rest
  | stretch first ts =>
    show passFrom op out (.operand first :: (ts.flatMap _ ++ rest)) = _
    rw [passFrom_operand]
    -- the operand put out last is the left one of the next fold
    induction ts generalizing first with
    | nil => rfl
    | cons t ts ih =>
      rw [List.flatMap_cons, List.append_assoc]
      show passFrom op _ (.operator op :: .operand t :: (ts.flatMap _ ++ rest)) = _
      rw [passFrom_fold, ih (.node first op t) Segment.noConfusion]
      rfl

/-- **A pass goes through segments one after the other.** -/
theorem passFrom_segments (h : .kept op ∉ segments) (out : List Item) :
    passFrom op out (segments.flatMap (Segment.items op))
      = .ok (out.reverse ++ segments.map (Segment.folded op)) := by
  induction segments generalizing out with
  | nil => rw [List.flatMap_nil, passFrom, List.map_nil, List.append_nil]
  | cons s segments ih =>
    rw [List.flatMap_cons, passFrom_segment (List.ne_of_not_mem_cons h),
      ih (List.not_mem_of_not_mem_cons h), List.reverse_cons, List.append_assoc, List.map_cons,
      List.singleton_append]

/-! ## From what is put out to the segments -/

/-- **A chain of the operator of the pass is a stretch**, and its tree is nested
to the left. -/
theorem exists_stretch_of_tiered {c : Chain Tree} {t : Tree} (h : Tiered [[op]] c t) :
    ∃ first rest, c.items = (Segment.stretch first rest).items op
      ∧ .operand t = (Segment.stretch first rest).folded op := by
  induction h using Tiered.loosest_induction with
  | next c t h =>
    rw [h.eq_single]
    exact ⟨t, [], rfl, rfl⟩
  | join c d l r o ho hl hr ih =>
    obtain ⟨first, rest, hitems, hfolded⟩ := ih
    obtain rfl := List.mem_singleton.mp ho
    refine ⟨first, rest ++ [r], ?_, ?_⟩
    · rw [Chain.items_join, hitems, hr.eq_single]
      simp [Segment.items]
    · rw [Segment.folded] at hfolded ⊢
      rw [List.foldl_concat, ← Item.operand.inj hfolded]

/-- **What a level expands to is cut into segments**, one for each of its items. -/
theorem Expands.exists_segments {l m : Level} (h : Expands op l m) (hl : .operator op ∉ l) :
    ∃ segments : List Segment, .kept op ∉ segments
      ∧ segments.flatMap (Segment.items op) = m ∧ l = segments.map (Segment.folded op) := by
  induction h with
  | nil => exact ⟨[], List.not_mem_nil, rfl, rfl⟩
  | operator o h ih =>
    obtain ⟨segments, hkept, rfl, rfl⟩ := ih (List.not_mem_of_not_mem_cons hl)
    have ho : Segment.kept op ≠ .kept o := fun heq =>
      List.ne_of_not_mem_cons hl (by cases heq; rfl)
    exact ⟨.kept o :: segments, List.not_mem_cons_of_ne_of_not_mem ho hkept, rfl, rfl⟩
  | operand hc h ih =>
    obtain ⟨first, rest, hitems, hfolded⟩ := exists_stretch_of_tiered hc
    obtain ⟨segments, hkept, rfl, rfl⟩ := ih (List.not_mem_of_not_mem_cons hl)
    refine ⟨.stretch first rest :: segments,
      List.not_mem_cons_of_ne_of_not_mem Segment.noConfusion hkept, ?_, ?_⟩
    · rw [List.flatMap_cons, hitems]
    · rw [List.map_cons, hfolded]

/-- **A pass gets through a level that can be cut, and puts out what it makes of
the segments**; it gets through no other. -/
theorem pass_eq_ok_iff {out : Level} :
    pass op level = .ok out
      ↔ ∃ segments, IsCut op level segments ∧ out = segments.map (Segment.folded op) := by
  constructor
  · intro h
    have hleft : .operator op ∉ out := not_mem_of_passFrom h List.not_mem_nil
    obtain ⟨segments, hkept, rfl, hout⟩ := (expands_of_pass h).exists_segments hleft
    exact ⟨segments, .of_not_mem hkept, hout⟩
  · rintro ⟨segments, hcut, rfl⟩
    rw [← hcut.items_eq]
    exact passFrom_segments hcut.kept_not_mem []

/-- A pass gets through if its operator has an operand on either side wherever it
stands. -/
theorem exists_pass_eq_ok_iff_operands :
    (∃ out, pass op level = .ok out)
      ↔ ∀ before after, level = before ++ .operator op :: after →
          (∃ front l, before = front ++ [.operand l]) ∧ ∃ r back, after = .operand r :: back := by
  rw [exists_pass_eq_ok_iff, lacks_eq_false_iff]
  constructor
  · exact fun h before after hlevel =>
      Place.isSupplied_iff.mp (h ⟨before, after⟩ (mem_places_iff.mpr hlevel))
  · exact fun h p hp => Place.isSupplied_iff.mpr (h _ _ (mem_places_iff.mp hp))

end

/-- **One pass over any level.** It gets to the end if and only if each of its
operators has an operand just before it and one just after it. What it puts out
is then the level with an operand for each longest stretch of operands joined by
its operator, nested to the left, and with everything else in its place. If it
does not get to the end, the error names its operator. -/
theorem pass_folds_stretches (op : Operator) (level : Level) :
    ((∃ out, pass op level = .ok out)
      ↔ ∀ before after, level = before ++ .operator op :: after →
          (∃ front l, before = front ++ [.operand l]) ∧ ∃ r back, after = .operand r :: back)
    ∧ (∀ out, pass op level = .ok out
      ↔ ∃ segments, IsCut op level segments ∧ out = segments.map (Segment.folded op))
    ∧ ∀ e, pass op level = .error e → e = .missingOperand op :=
  ⟨exists_pass_eq_ok_iff_operands, fun _ => pass_eq_ok_iff,
    fun _ he => (pass_eq_error_iff.mp he).1⟩

/-- In `1 + 2 + 3 - 4 5` the pass of `+` makes one operand of the first three and
leaves the last two side by side; `1 + - 2` stops it. -/
theorem pass_folds_stretches_add :
    pass .add [.operand (.leaf 1), .operator .add, .operand (.leaf 2), .operator .add,
        .operand (.leaf 3), .operator .sub, .operand (.leaf 4), .operand (.leaf 5)]
      = .ok [.operand (.node (.node (.leaf 1) .add (.leaf 2)) .add (.leaf 3)), .operator .sub,
          .operand (.leaf 4), .operand (.leaf 5)]
    ∧ pass .add [.operand (.leaf 1), .operator .add, .operator .sub, .operand (.leaf 2)]
      = .error (.missingOperand .add) := by
  constructor
  · obtain ⟨-, hok, -⟩ := pass_folds_stretches .add
      [.operand (.leaf 1), .operator .add, .operand (.leaf 2), .operator .add,
        .operand (.leaf 3), .operator .sub, .operand (.leaf 4), .operand (.leaf 5)]
    have hkept : Segment.kept .add ∉ [.stretch (.leaf 1) [.leaf 2, .leaf 3], .kept .sub,
        .stretch (.leaf 4) [], .stretch (.leaf 5) []] := by decide
    exact (hok _).mpr ⟨_, .of_not_mem hkept, rfl⟩
  · obtain ⟨hsupplied, -, herror⟩ := pass_folds_stretches .add
      [.operand (.leaf 1), .operator .add, .operator .sub, .operand (.leaf 2)]
    cases h : pass .add [.operand (.leaf 1), .operator .add, .operator .sub, .operand (.leaf 2)]
      with
    | ok out =>
      obtain ⟨-, r, back, hafter⟩ := hsupplied.mp ⟨out, h⟩ [.operand (.leaf 1)] _ rfl
      cases hafter
    | error e => rw [herror e h]

end Level

end IntegerCalculator
