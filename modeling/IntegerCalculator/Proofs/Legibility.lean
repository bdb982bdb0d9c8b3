import IntegerCalculator.Proofs.Listing

/-!
# What can be read off an outline

An outline shows the first entries of a tree and says how many it leaves out, and
nothing of this is lost in the writing: two trees have the same outline if and
only if they have the same number of nodes and agree on the entries that are
shown (`Tree.outline_eq_iff`). A tree whose nodes are all shown is therefore told
by its outline.

The outline is taken apart in the order in which it was put together. No line
holds a line break, so the text gives the lines (`Text.lines_injective`). Only an
outline that is cut has a line beyond the limit, so their number says whether the
last one is a count. A line begins with its indentation, and no label holds a
space, so it gives the depth and then the label (`Tree.Entry.line_injective`); a
minus sign by itself is an operator, and one in front of a digit is not
(`Tree.Label.text_injective`). Finally, the labels of a preorder say by
themselves where each subtree ends, which is at a number for every operator and
one more (`Tree.preorder_append_injective`).
-/

namespace IntegerCalculator.Tree

/-! ## The lines -/

namespace Label

/-- A character that is no digit and no operator stands in no label. -/
theorem not_mem_text {c : Char} (hdigit : c.isDigit = false)
    (hsymbol : Operator.ofSymbol? c = none) (l : Label) : c ∉ l.text := by
  intro h
  cases l with
  | operator op =>
    rw [List.mem_singleton.mp h, Operator.ofSymbol?_symbol] at hsymbol
    cases hsymbol
  | number n =>
    rcases Decimal.isDigit_or_eq_minus_of_mem_ofInt h with hc | rfl
    · rw [hc] at hdigit
      cases hdigit
    · cases hsymbol

/-- An operator is not written as a number: it may be a sign, but no digit
follows. -/
theorem symbol_ne_ofInt (op : Operator) (n : Int) : [op.symbol] ≠ Decimal.ofInt n := by
  intro h
  cases n with
  | ofNat n =>
    have hnumber : Decimal.ofNat n ++ [] = [op.symbol] := (List.append_nil _).trans h.symm
    exact Decimal.ofNat_append_ne_cons op.isDigit_symbol n [] [] hnumber
  | negSucc n => exact Decimal.ofNat_ne_nil (n + 1) (List.cons.inj h).2.symm

/-- **Labels are told apart by their texts.** -/
theorem text_injective {l m : Label} (h : l.text = m.text) : l = m := by
  cases l with
  | operator op =>
    cases m with
    | operator op' => rw [Operator.symbol_injective (List.cons.inj h).1]
    | number n => exact absurd h (symbol_ne_ofInt op n)
  | number n =>
    cases m with
    | operator op => exact absurd h.symm (symbol_ne_ofInt op n)
    | number n' => rw [Decimal.ofInt_injective h]

end Label

namespace Entry

/-- **The spaces of a line are its indentation.** -/
theorem count_space_line (e : Entry) : e.line.count ' ' = 2 * e.depth := by
  have hlabel : e.label.text.count ' ' = 0 :=
    List.count_eq_zero.mpr (e.label.not_mem_text (by decide) (by decide))
  rw [line, List.count_append, List.count_replicate_self, hlabel, Nat.add_zero]

/-- **A line gives its entry.** -/
theorem line_injective {e f : Entry} (h : e.line = f.line) : e = f := by
  have hdepth : e.depth = f.depth := by
    have hcount : 2 * e.depth = 2 * f.depth := by
      rw [← count_space_line, h, count_space_line]
    omega
  have htext : e.label.text = f.label.text := by
    unfold line at h
    rw [hdepth] at h
    exact List.append_cancel_left h
  cases e
  cases f
  cases hdepth
  cases Label.text_injective htext
  rfl

theorem newline_not_mem_line (e : Entry) : '\n' ∉ e.line := by
  intro h
  rcases List.mem_append.mp h with h | h
  · exact absurd (List.eq_of_mem_replicate h) (by decide)
  · exact e.label.not_mem_text (by decide) (by decide) h

end Entry

theorem newline_not_mem_hiddenLine (n : Nat) : '\n' ∉ hiddenLine n := by
  have hcount : '\n' ∉ Decimal.ofNat n := fun h =>
    absurd (Decimal.isDigit_of_mem_ofNat h) (by decide)
  have hwords : '\n' ∉ " noeuds non affichés)".toList := by decide
  simp only [hiddenLine, List.mem_cons, List.mem_append, not_or]
  exact ⟨by decide, by decide, by decide, hcount, hwords⟩

/-- The last line gives the number of hidden nodes. -/
theorem hiddenLine_injective {m n : Nat} (h : hiddenLine m = hiddenLine n) : m = n := by
  have hspace : ∀ c ∈ " noeuds non affichés)".toList.head?, c.isDigit = false := by simp
  have htail : Decimal.ofNat m ++ " noeuds non affichés)".toList
      = Decimal.ofNat n ++ " noeuds non affichés)".toList := by
    simpa [hiddenLine] using h
  exact (Decimal.ofNat_append_injective hspace hspace htail).1

/-! ## The outline and its lines -/

/-- The lines of an outline are those of its entries, in order. -/
theorem outlineLines_eq_preorder (t : Tree) :
    t.outlineLines = ((t.preorder 0).take lineLimit).map Entry.line
      ++ if lineLimit < t.size then [hiddenLine (t.size - lineLimit)] else [] := by
  rw [outlineLines_eq, List.map_take, map_line_preorder]

theorem newline_not_mem_of_mem_outlineLines {t : Tree} {l : Text} (h : l ∈ t.outlineLines) :
    '\n' ∉ l := by
  rw [outlineLines_eq_preorder, List.mem_append] at h
  rcases h with h | h
  · obtain ⟨e, -, rfl⟩ := List.mem_map.mp h
    exact e.newline_not_mem_line
  · split at h
    · rw [List.mem_singleton.mp h]
      exact newline_not_mem_hiddenLine _
    · cases h

/-- **An outline has a line for each node, up to one line beyond the limit.** -/
theorem length_outlineLines (t : Tree) : t.outlineLines.length = min t.size (lineLimit + 1) := by
  rw [outlineLines_eq_preorder, List.length_append, List.length_map, List.length_take,
    length_preorder]
  split
  · rw [List.length_singleton]
    omega
  · rw [List.length_nil]
    omega

theorem outlineLines_ne_nil (t : Tree) : t.outlineLines ≠ [] := by
  have hsize := t.size_pos
  refine List.ne_nil_of_length_pos ?_
  rw [length_outlineLines]
  omega

/-- **The lines give the number of nodes and the entries that are shown.** -/
theorem size_eq_and_take_eq_of_outlineLines {a b : Tree} (h : a.outlineLines = b.outlineLines) :
    a.size = b.size ∧ (a.preorder 0).take lineLimit = (b.preorder 0).take lineLimit := by
  have hlength : min a.size (lineLimit + 1) = min b.size (lineLimit + 1) := by
    rw [← length_outlineLines, h, length_outlineLines]
  have hlimit : lineLimit < a.size ↔ lineLimit < b.size := by omega
  rw [outlineLines_eq_preorder, outlineLines_eq_preorder] at h
  have hcount : (((a.preorder 0).take lineLimit).map Entry.line).length
      = (((b.preorder 0).take lineLimit).map Entry.line).length := by
    simp only [List.length_map, List.length_take, length_preorder]
    omega
  obtain ⟨hshown, hlast⟩ := List.append_inj h hcount
  refine ⟨?_, (List.map_inj_right fun _ _ => Entry.line_injective).mp hshown⟩
  by_cases hcut : lineLimit < a.size
  · rw [if_pos hcut, if_pos (hlimit.mp hcut)] at hlast
    have hhidden := hiddenLine_injective (List.cons.inj hlast).1
    omega
  · omega

/-- The text gives the lines. -/
theorem outlineLines_eq_of_outline {a b : Tree} (h : a.outline = b.outline) :
    a.outlineLines = b.outlineLines :=
  Text.lines_injective (fun _ => newline_not_mem_of_mem_outlineLines)
    (fun _ => newline_not_mem_of_mem_outlineLines) a.outlineLines_ne_nil b.outlineLines_ne_nil h

/-! ## The tree in its preorder -/

/-- **A preorder has one reading**: the same entries begin with the preorder of one
tree only. -/
theorem preorder_append_injective {a b : Tree} {d : Nat} {es fs : List Entry}
    (h : a.preorder d ++ es = b.preorder d ++ fs) : a = b ∧ es = fs := by
  induction a generalizing b d es fs with
  | leaf n =>
    cases b with
    | leaf m =>
      obtain ⟨hroot, hrest⟩ := List.cons.inj h
      cases hroot
      exact ⟨rfl, hrest⟩
    | node l op r => cases (List.cons.inj h).1
  | node l op r ihl ihr =>
    cases b with
    | leaf m => cases (List.cons.inj h).1
    | node l' op' r' =>
      rw [preorder, preorder, List.cons_append, List.cons_append, List.append_assoc,
        List.append_assoc] at h
      obtain ⟨hroot, hrest⟩ := List.cons.inj h
      cases hroot
      obtain ⟨rfl, hright⟩ := ihl hrest
      obtain ⟨rfl, hbehind⟩ := ihr hright
      exact ⟨rfl, hbehind⟩

/-- Trees with the same preorder are the same. -/
theorem preorder_injective {a b : Tree} {d : Nat} (h : a.preorder d = b.preorder d) : a = b := by
  have hend : a.preorder d ++ [] = b.preorder d ++ [] := by rw [h]
  exact (preorder_append_injective hend).1

/-! ## The outline and the tree -/

/-- An outline is told by the number of nodes and the entries that are shown. -/
theorem outline_eq_iff_take {a b : Tree} :
    a.outline = b.outline
      ↔ a.size = b.size ∧ (a.preorder 0).take lineLimit = (b.preorder 0).take lineLimit := by
  constructor
  · intro h
    exact size_eq_and_take_eq_of_outlineLines (outlineLines_eq_of_outline h)
  · rintro ⟨hsize, hshown⟩
    unfold outline
    rw [outlineLines_eq_preorder, outlineLines_eq_preorder, hsize, hshown]

/-- A preorder has an entry for each node, so it can be cut after that many. -/
theorem take_min_size_preorder (t : Tree) :
    (t.preorder 0).take (min t.size 200) = (t.preorder 0).take lineLimit := by
  rw [List.take_eq_take_iff, length_preorder]
  show min (min t.size 200) t.size = min 200 t.size
  omega

/-- **Two trees have the same outline if and only if they have the same number of
nodes and the same entries up to the limit.** If neither has more nodes than an
outline shows, they are the same tree. -/
theorem outline_eq_iff (a b : Tree) :
    (a.outline = b.outline
        ↔ a.size = b.size
          ∧ (a.preorder 0).take (min a.size 200) = (b.preorder 0).take (min b.size 200))
      ∧ (a.size ≤ 200 → b.size ≤ 200 → (a.outline = b.outline ↔ a = b)) := by
  rw [take_min_size_preorder, take_min_size_preorder]
  refine ⟨outline_eq_iff_take, fun ha hb => ⟨fun h => ?_, fun h => by rw [h]⟩⟩
  -- nothing is hidden: the entries that are shown are the whole preorder
  have hwhole (t : Tree) (ht : t.size ≤ 200) : (t.preorder 0).take lineLimit = t.preorder 0 := by
    refine List.take_of_length_le ?_
    rw [length_preorder]
    exact ht
  obtain ⟨-, hshown⟩ := outline_eq_iff_take.mp h
  rw [hwhole a ha, hwhole b hb] at hshown
  exact preorder_injective hshown

/-- The outline tells `(1 - 2) - -3` from `1 - (2 - -3)`. It does not tell two sums
of 102 numbers that differ in the last one. -/
theorem outline_eq_iff_sums :
    (node (node (leaf 1) .sub (leaf 2)) .sub (leaf (-3))).outline
        ≠ (node (leaf 1) .sub (node (leaf 2) .sub (leaf (-3)))).outline
      ∧ ∃ a b : Tree, a ≠ b ∧ a.outline = b.outline := by
  let sum (n : Int) : Tree := (List.replicate 101 (leaf 1)).foldr (node · .add ·) (leaf n)
  refine ⟨?_, sum 2, sum 3, by decide +kernel, ?_⟩
  · rw [ne_eq, (outline_eq_iff _ _).2 (by decide) (by decide)]
    decide
  · exact (outline_eq_iff (sum 2) (sum 3)).1.mpr ⟨by decide +kernel, by decide +kernel⟩

end IntegerCalculator.Tree
