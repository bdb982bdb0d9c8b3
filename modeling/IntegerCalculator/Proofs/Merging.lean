import IntegerCalculator.Proofs.Bracketing

/-!
# Two tiers in one

Convention ranks `+` with `-` and `*` with `/`; the passes rank all four apart.
Both readings of a chain are `Tiered`, so the question when they agree is a
question about tiers: what changes when two neighbouring tiers of one operator
each, `a` looser than `b`, are merged into one tier of both?

The tree stays the same exactly when no `b` stands behind an `a`
(`Tiered.merged_iff`). For then the operators come as all the `b` and then all
the `a`, and reading from left to right is what the two tiers do anyway. A `b`
behind an `a` belongs to the right side of that `a` under two tiers and to the
left side of what follows under one, and nothing else in the chain can make up
for it: the two trees have a different number of leaves on the left.

The lemma is used twice, for `/` and `*` inside the terms and for `-` and `+`
between them. What the tiers below make of the pieces is its parameter.
-/

namespace IntegerCalculator

/-- **The tiers of convention**: sums and differences together, products and
quotients together. -/
def conventionalTiers : List (List Operator) := [[.add, .sub], [.mul, .div]]

theorem ranks_conventionalTiers : Ranks conventionalTiers where
  nodup := by decide
  mem o := by cases o <;> decide

/-- **The operators of a level depart from convention**: a `+` stands anywhere
behind a `-`, or a `*` anywhere behind a `/` with no `+` or `-` between. -/
def Departs (ops : List Operator) : Prop :=
  [.sub, .add].Sublist ops
    ∨ ∃ m, m.IsInfix ops ∧ .add ∉ m ∧ .sub ∉ m ∧ [.div, .mul].Sublist m

/-! ## Lists of operators -/

section

variable {α : Type} {a b : α}

/-- What stands between two cuts has the property `Q`. -/
def Between (a b : α) (Q : List α → Prop) (l : List α) : Prop :=
  ∀ m, m.IsInfix l → a ∉ m → b ∉ m → Q m

/-- A beginning without `o` ends before `o`. -/
theorem prefix_of_prefix_append_cons {o : α} {m l r : List α} (h : m.IsPrefix (l ++ o :: r))
    (ho : o ∉ m) : m.IsPrefix l := by
  obtain ⟨t, h⟩ := h
  rcases List.append_eq_append_iff.mp h with ⟨as, rfl, -⟩ | ⟨as, rfl, has⟩
  · exact List.prefix_append m as
  · cases as with
    | nil => exact ⟨[], by simp⟩
    | cons x as =>
      obtain ⟨rfl, -⟩ := List.cons.inj has
      exact absurd (List.mem_append_right l List.mem_cons_self) ho

/-- A stretch without `o` lies on one side of `o`. -/
theorem infix_of_infix_append_cons {o : α} {m l r : List α} (h : m.IsInfix (l ++ o :: r))
    (ho : o ∉ m) : m.IsInfix l ∨ m.IsInfix r := by
  induction l with
  | nil =>
    rcases List.infix_cons_iff.mp h with h | h
    · exact .inl (prefix_of_prefix_append_cons (l := []) h ho).isInfix
    · exact .inr h
  | cons x l ih =>
    rcases List.infix_cons_iff.mp h with h | h
    · exact .inl (prefix_of_prefix_append_cons (l := x :: l) h ho).isInfix
    · exact (ih h).imp_left fun h => h.trans (List.suffix_cons x l).isInfix

/-- **A cut parts the stretches.** -/
theorem between_append_cons {Q : List α → Prop} {o : α} (ho : o = a ∨ o = b)
    {l r : List α} :
    Between a b Q (l ++ o :: r) ↔ Between a b Q l ∧ Between a b Q r := by
  constructor
  · intro h
    have hr : r.IsInfix (l ++ o :: r) := ⟨l ++ [o], [], by simp⟩
    exact ⟨fun m hm => h m (hm.trans ⟨[], o :: r, by simp⟩), fun m hm => h m (hm.trans hr)⟩
  · rintro ⟨hl, hr⟩ m hm ha hb
    have hom : o ∉ m := by
      rcases ho with rfl | rfl
      · exact ha
      · exact hb
    rcases infix_of_infix_append_cons hm hom with h | h
    · exact hl m h ha hb
    · exact hr m h ha hb

/-- Without cuts the whole list is one stretch. -/
theorem between_iff_of_not_mem {Q : List α → Prop}
    (hQ : ∀ {l m : List α}, m.IsInfix l → Q l → Q m) {l : List α} (ha : a ∉ l) (hb : b ∉ l) :
    Between a b Q l ↔ Q l :=
  ⟨fun h => h l (List.infix_refl l) ha hb, fun h _ hm _ _ => hQ hm h⟩

/-- **Where a `b` can stand behind an `a`**: behind an earlier `a`, or anywhere
behind the last one. -/
theorem pair_sublist_append_cons {l r : List α} (hr : a ∉ r) (hab : a ≠ b) :
    [a, b].Sublist (l ++ a :: r) ↔ [a, b].Sublist l ∨ b ∈ r := by
  constructor
  · intro h
    obtain ⟨l₁, l₂, hl, h₁, h₂⟩ := List.sublist_append_iff.mp h
    rcases List.cons_eq_append_iff.mp hl with ⟨rfl, rfl⟩ | ⟨m, rfl, hm⟩
    · cases h₂ with
      | cons _ h₂ => exact absurd (h₂.subset List.mem_cons_self) hr
      | cons_cons _ h₂ => exact .inr (h₂.subset List.mem_cons_self)
    · rcases List.cons_eq_append_iff.mp hm with ⟨rfl, rfl⟩ | ⟨m, rfl, -⟩
      · have hb := h₂.subset List.mem_cons_self
        exact .inr ((List.mem_cons.mp hb).resolve_left (Ne.symm hab))
      · exact .inl ((List.prefix_append [a, b] m).sublist.trans h₁)
  · rintro (h | h)
    · exact h.trans (List.sublist_append_left l _)
    · exact ((List.singleton_sublist.mpr h).cons_cons a).trans (List.sublist_append_right l _)

end

/-! ## Merging two tiers -/

namespace Tiered

variable {ops : List Operator} {tiers tiers' : List (List Operator)} {c d : Chain Tree}
  {t l r : Tree} {o a b : Operator}

/-- A tier none of whose operators occurs may be left out. -/
theorem cons_iff_of_not_mem (h : ∀ o ∈ ops, o ∉ c.operators) :
    Tiered (ops :: tiers) c t ↔ Tiered tiers c t := by
  refine ⟨fun h' => ?_, fun h' => .next ops h'⟩
  cases h' with
  | next _ h' => exact h'
  | @join _ _ _ _ _ _ o ho => exact absurd (by simp) (h o ho)

/-- **A joint under one reading is the joint under any**, if it has the right
number of leaves on its left side. -/
theorem join_iff {lower : List (List Operator)} (hl : Tiered lower c l) (ho : o ∈ ops)
    (ho' : o ∉ tiers.flatten) :
    Tiered (ops :: tiers) (c.join o d) (.node l o r)
      ↔ Tiered (ops :: tiers) c l ∧ Tiered tiers d r := by
  refine ⟨fun h => ?_, fun h => .join ho h.1 h.2⟩
  rcases h.node_cases_loosest with h | ⟨c', d', hjoin, hl', hr'⟩
  · exact absurd (h.operators_subset o (by simp)) ho'
  · have hsum : (c.operands.map Tree.leaves).sum = (c'.operands.map Tree.leaves).sum := by
      rw [hl.sum_leaves_eq, hl'.sum_leaves_eq]
    obtain ⟨rfl, -, rfl⟩ := Chain.join_injective_of_sum hjoin hsum fun t _ => t.leaves_pos
    exact ⟨hl', hr'⟩

section

variable {Q : List Operator → Prop}
  (ha : a ∉ tiers.flatten) (hb : b ∉ tiers.flatten)
  (ha' : a ∉ tiers'.flatten) (hb' : b ∉ tiers'.flatten)
  (hQ : ∀ {l m : List Operator}, m.IsInfix l → Q l → Q m)
  (hpieces : ∀ {c t}, Tiered tiers c t → (Tiered tiers' c t ↔ Q c.operators))

include ha hb hQ hpieces

/-- A piece between the cuts is left to the tiers below. -/
theorem piece_iff (h : Tiered tiers c t) :
    Tiered tiers' c t ↔ Between a b Q c.operators := by
  rw [hpieces h, between_iff_of_not_mem hQ (mt (h.operators_subset a) ha)
    (mt (h.operators_subset b) hb)]

include hb'

/-- At the tighter of the two tiers there is no `a` yet, so only the pieces
count. -/
theorem merged_tight_iff (h : Tiered ([b] :: tiers) c t) :
    Tiered ([b, a] :: tiers') c t ↔ Between a b Q c.operators := by
  induction h using loosest_induction with
  | next c t h =>
    rw [← piece_iff ha hb hQ hpieces h, cons_iff_of_not_mem fun o ho => ?_]
    rcases List.mem_cons.mp ho with rfl | ho
    · exact mt (h.operators_subset o) hb
    · obtain rfl := List.mem_singleton.mp ho
      exact mt (h.operators_subset o) ha
  | join c d l r o ho hl hr ih =>
    obtain rfl := List.mem_singleton.mp ho
    rw [join_iff hl List.mem_cons_self hb', ih, Chain.operators_join,
      between_append_cons (.inr rfl), piece_iff ha hb hQ hpieces hr]

include ha'

/-- **Two tiers may be merged exactly when no `b` stands behind an `a`** and the
tiers below agree on the pieces. -/
theorem merged_iff (hab : a ≠ b) (h : Tiered ([a] :: [b] :: tiers) c t) :
    Tiered ([b, a] :: tiers') c t
      ↔ ¬ [a, b].Sublist c.operators ∧ Between a b Q c.operators := by
  have hnot {d : Chain Tree} {r : Tree} (hd : Tiered ([b] :: tiers) d r) :
      a ∉ d.operators := fun hmem =>
    ((List.mem_append.mp (hd.operators_subset a hmem)).elim
      (fun h => hab (List.mem_singleton.mp h)) ha)
  induction h using loosest_induction with
  | next c t h =>
    rw [merged_tight_iff ha hb hb' hQ hpieces h]
    exact ⟨fun h' => ⟨fun hpair => hnot h (hpair.subset List.mem_cons_self), h'⟩, And.right⟩
  | join c d l r o ho hl hr ih =>
    obtain rfl := List.mem_singleton.mp ho
    -- what stands behind the last `a` has to do without `b`
    have hright : Tiered tiers' d r ↔ b ∉ d.operators ∧ Between o b Q d.operators := by
      constructor
      · intro h'
        exact ⟨mt (h'.operators_subset b) hb',
          (merged_tight_iff ha hb hb' hQ hpieces hr).mp (.next _ h')⟩
      · rintro ⟨hbd, hbetween⟩
        have hd : Tiered tiers d r := (cons_iff_of_not_mem fun p hp => by
          rwa [List.mem_singleton.mp hp]).mp hr
        exact (piece_iff ha hb hQ hpieces hd).mpr hbetween
    rw [join_iff hl (by simp) ha', show _ ↔ _ from ih, hright, Chain.operators_join,
      between_append_cons (.inl rfl), pair_sublist_append_cons (hnot hr) hab, not_or]
    exact and_and_and_comm

end

/-- **When a chain departs from convention**: its tree under the passes is its
conventional tree exactly when no `+` stands behind a `-` and no `*` behind a
`/` of the same term. -/
theorem conventional_iff (h : Tiered passTiers c t) :
    Tiered conventionalTiers c t ↔ ¬ Departs c.operators := by
  have hfactors {c : Chain Tree} {t : Tree} (h : Tiered [[.div], [.mul]] c t) :
      Tiered [[.mul, .div]] c t ↔ ¬ [.div, .mul].Sublist c.operators := by
    rw [merged_iff (Q := fun _ => True) (by simp) (by simp) (by simp) (by simp)
      (fun _ h => h) (fun h => iff_true_intro h) (by decide) h]
    exact and_iff_left fun _ _ _ _ => trivial
  rw [conventionalTiers, merged_iff (Q := fun m => ¬ [Operator.div, .mul].Sublist m) (by decide)
    (by decide) (by decide) (by decide)
    (fun hinfix h hpair => h (hpair.trans hinfix.sublist)) hfactors (by decide) h, Departs]
  simp only [not_or, not_exists, not_and, Between]
  exact and_congr_right fun _ => forall₂_congr fun m _ => ⟨fun h ha hs => h hs ha,
    fun h hs ha => h ha hs⟩

end Tiered

end IntegerCalculator
