import IntegerCalculator.Proofs.Meaning
import Mathlib.Algebra.GroupWithZero.Nat
import Mathlib.Data.List.Induction

/-!
# The tree of a chain, computed and recognised

`Tiered` says which trees a chain has. When every operator has exactly one tier
(`Ranks`) it has just one, and `Chain.tree` computes it: cut the chain at the
operators of the loosest tier, take the trees of the pieces and nest them to
the left (`tiered_iff_tree_eq`).

The other way round, a tree says how it was bracketed, even if its operands are
unknown trees themselves, as soon as the number of leaves of every operand is
known: the root of the tree is the joint that leaves the right number of leaves
on its left side (`Chain.join_injective_of_sum`). So two chains of operands of
the same sizes that have the same tree are the same chain, whatever the tiers
(`Tiered.chain_unique`).
-/

namespace IntegerCalculator

/-- **Every operator has its tier, and only one.** -/
structure Ranks (tiers : List (List Operator)) : Prop where
  nodup : tiers.flatten.Nodup
  mem : ∀ o, o ∈ tiers.flatten

theorem ranks_passTiers : Ranks passTiers where
  nodup := by decide
  mem o := by cases o <;> decide

namespace Chain

/-- The operands nested to the left. -/
def nest (c : Chain Tree) : Tree := c.rest.foldl (fun l p => .node l p.1 p.2) c.first

/-- **The tree of a chain under the given tiers**, the loosest first. -/
def tree : List (List Operator) → Chain Tree → Tree
  | [], c => c.first
  | ops :: tiers, c => ((c.cut fun o => decide (o ∈ ops)).map (tree tiers)).nest

@[simp] theorem nest_single (t : Tree) : (single t).nest = t := rfl

/-- One more operand is nested last. -/
@[simp] theorem nest_join_single (c : Chain Tree) (o : Operator) (t : Tree) :
    (c.join o (single t)).nest = .node c.nest o t := by
  simp [nest, join, single]

/-- Every chain is one operand, or a chain with one more operand behind it. -/
theorem induction_right {α : Type} {motive : Chain α → Prop}
    (single : ∀ x, motive (single x))
    (join : ∀ c o x, motive c → motive (c.join o (.single x))) (c : Chain α) :
    motive c := by
  obtain ⟨x, rest⟩ := c
  induction rest using List.reverseRecOn with
  | nil => exact single x
  | append_singleton rest p ih => exact join ⟨x, rest⟩ p.1 p.2 ih

/-- A chain whose image has a joint has the joint itself. -/
theorem exists_of_map_eq_join {α β : Type} {f : α → β} {c : Chain α} {o : Operator}
    {d e : Chain β} (h : c.map f = d.join o e) :
    ∃ c₁ c₂ : Chain α, c = c₁.join o c₂ ∧ c₁.map f = d ∧ c₂.map f = e := by
  obtain ⟨x, rest⟩ := c
  obtain ⟨hx, hrest⟩ := Chain.mk.inj h
  obtain ⟨l, links, rfl, hl, hlinks⟩ := List.map_eq_append_iff.mp hrest
  obtain ⟨⟨o', y⟩, m, rfl, hp, hm⟩ := List.map_eq_cons_iff.mp hlinks
  obtain ⟨rfl, hy⟩ := Prod.mk.inj hp
  exact ⟨⟨x, l⟩, ⟨y, m⟩, rfl, by rw [map, hl, hx], by rw [map, hm, hy]⟩

end Chain

namespace Tiered

variable {tiers : List (List Operator)} {c : Chain Tree} {t : Tree}

/-- **A chain with a tree keeps having one** when an operand is put behind it,
as long as the operator before it has a tier. -/
theorem exists_join_single (h : Tiered tiers c t) {o : Operator} (ho : o ∈ tiers.flatten)
    (x : Tree) : ∃ u, Tiered tiers (c.join o (.single x)) u := by
  induction h with
  | operand t => exact absurd ho List.not_mem_nil
  | @next ops tiers c t h ih =>
    by_cases hops : o ∈ ops
    · exact ⟨.node t o x, .join hops (.next ops h) (.single tiers x)⟩
    · obtain ⟨u, hu⟩ := ih ((List.mem_append.mp ho).resolve_left hops)
      exact ⟨u, .next ops hu⟩
  | @join ops tiers c d l r o' ho' hl hr ihl ihr =>
    by_cases hops : o ∈ ops
    · exact ⟨_, .join hops (.join ho' hl hr) (.single tiers x)⟩
    · obtain ⟨u, hu⟩ := ihr ((List.mem_append.mp ho).resolve_left hops)
      refine ⟨.node l o' u, ?_⟩
      have hjoin : (c.join o' d).join o (.single x) = c.join o' (d.join o (.single x)) := by
        simp [Chain.join]
      rw [hjoin]
      exact .join ho' hl hu

/-- Every chain has a tree if every operator has a tier. -/
theorem exists_of_mem (h : ∀ o, o ∈ tiers.flatten) (c : Chain Tree) :
    ∃ t, Tiered tiers c t := by
  induction c using Chain.induction_right with
  | single x => exact ⟨x, .single tiers x⟩
  | join c o x ih =>
    obtain ⟨t, ht⟩ := ih
    exact ht.exists_join_single (h o) x

/-- **The tree of a chain is the one computed**, when no operator has two
tiers. -/
theorem tree_eq (hnodup : tiers.flatten.Nodup) (h : Tiered tiers c t) : c.tree tiers = t := by
  induction h with
  | operand t => rfl
  | @next ops tiers c t h ih =>
    obtain ⟨-, htiers, hdisjoint⟩ := List.nodup_append.mp hnodup
    have hcut : (c.cut fun o => decide (o ∈ ops)) = .single c :=
      Chain.cut_eq_single fun o ho => decide_eq_false fun hops =>
        hdisjoint o hops o (h.operators_subset o ho) rfl
    rw [Chain.tree, hcut, Chain.map_single, Chain.nest_single, ih htiers]
  | @join ops tiers c d l r o ho hl hr ihl ihr =>
    obtain ⟨-, htiers, hdisjoint⟩ := List.nodup_append.mp hnodup
    have hcut : (d.cut fun o => decide (o ∈ ops)) = .single d :=
      Chain.cut_eq_single fun o ho => decide_eq_false fun hops =>
        hdisjoint o hops o (hr.operators_subset o ho) rfl
    have hl : ((c.cut fun o => decide (o ∈ ops)).map (Chain.tree tiers)).nest = l :=
      ihl hnodup
    rw [Chain.tree, Chain.cut_join (decide_eq_true ho), hcut, Chain.map_join,
      Chain.map_single, Chain.nest_join_single, hl, ihr htiers]

end Tiered

/-- **Under a ranking a chain has one tree**, the one computed. -/
theorem tiered_iff_tree_eq {tiers : List (List Operator)} (h : Ranks tiers) {c : Chain Tree}
    {t : Tree} : Tiered tiers c t ↔ c.tree tiers = t := by
  refine ⟨Tiered.tree_eq h.nodup, ?_⟩
  rintro rfl
  obtain ⟨t, ht⟩ := Tiered.exists_of_mem h.mem c
  rwa [ht.tree_eq h.nodup]

/-! ## A tree tells its joints -/

namespace Chain

section

variable {α : Type} {w : α → Nat}

/-- With operands of positive weight behind it a chain weighs more. -/
theorem eq_nil_of_sum_eq {x : α} {l as : List (Operator × α)}
    (h : ((Chain.mk x l).operands.map w).sum = ((Chain.mk x (l ++ as)).operands.map w).sum)
    (hpos : ∀ p ∈ as, 0 < w p.2) : as = [] := by
  cases as with
  | nil => rfl
  | cons p as =>
    have hp := hpos p List.mem_cons_self
    simp only [operands, List.map_append, List.map_cons, List.sum_cons, List.sum_append] at h
    omega

/-- **The weight on the left tells the joint**: in a chain of operands of
positive weight, two joints with the same weight on the left are the same. -/
theorem join_injective_of_sum {c c' d d' : Chain α} {o o' : Operator}
    (h : c.join o d = c'.join o' d')
    (hsum : (c.operands.map w).sum = (c'.operands.map w).sum)
    (hpos : ∀ x ∈ (c.join o d).operands, 0 < w x) : c = c' ∧ o = o' ∧ d = d' := by
  have hpos' : ∀ x ∈ (c'.join o' d').operands, 0 < w x := h ▸ hpos
  rw [operands_join] at hpos hpos'
  obtain ⟨x, l⟩ := c
  obtain ⟨x', l'⟩ := c'
  obtain ⟨hx, hrest⟩ := Chain.mk.inj h
  obtain rfl : x = x' := hx
  have hl : l = l' := by
    rcases List.append_eq_append_iff.mp hrest with ⟨as, has, -⟩ | ⟨as, has, -⟩
    · obtain rfl : l' = l ++ as := has
      have hnil : as = [] := eq_nil_of_sum_eq hsum fun p hp =>
        hpos' p.2 (List.mem_append_left _ (List.mem_cons_of_mem _
          (List.mem_map_of_mem (List.mem_append_right l hp))))
      rw [hnil, List.append_nil]
    · obtain rfl : l = l' ++ as := has
      have hnil : as = [] := eq_nil_of_sum_eq hsum.symm fun p hp =>
        hpos p.2 (List.mem_append_left _ (List.mem_cons_of_mem _
          (List.mem_map_of_mem (List.mem_append_right l' hp))))
      rw [hnil, List.append_nil]
  subst hl
  obtain ⟨hp, hm⟩ := List.cons.inj (List.append_cancel_left hrest)
  obtain ⟨rfl, hy⟩ := Prod.mk.inj hp
  obtain ⟨y, m⟩ := d
  obtain ⟨y', m'⟩ := d'
  obtain rfl : y = y' := hy
  obtain rfl : m = m' := hm
  exact ⟨rfl, rfl, rfl⟩

end

end Chain

theorem Tree.leaves_pos (t : Tree) : 0 < t.leaves := by
  have := t.size_eq_leaves
  omega

namespace Tiered

variable {tiers tiers' : List (List Operator)} {c c' : Chain Tree} {t : Tree}

/-- **A tree has the leaves of its operands.** -/
theorem sum_leaves_eq (h : Tiered tiers c t) : (c.operands.map Tree.leaves).sum = t.leaves := by
  induction h with
  | operand t => simp
  | next ops h ih => exact ih
  | join ho hl hr ihl ihr =>
    rw [Chain.operands_join, List.map_append, List.sum_append, ihl, ihr, Tree.leaves]

/-- **What has a node for its tree** is an operand or a joint. -/
theorem node_cases {l r : Tree} {o : Operator} (h : Tiered tiers c (.node l o r)) :
    c = .single (.node l o r)
      ∨ ∃ c₁ c₂ tiers₁ tiers₂,
          c = c₁.join o c₂ ∧ Tiered tiers₁ c₁ l ∧ Tiered tiers₂ c₂ r := by
  generalize ht : Tree.node l o r = t at h
  induction h with
  | operand t => exact .inl rfl
  | next ops h ih => exact ih ht
  | join ho hl hr =>
    cases ht
    exact .inr ⟨_, _, _, _, rfl, hl, hr⟩

/-- The same at the loosest tier: the joint is one of this tier, or there is
none. -/
theorem node_cases_loosest {ops : List Operator} {l r : Tree} {o : Operator}
    (h : Tiered (ops :: tiers) c (.node l o r)) :
    Tiered tiers c (.node l o r)
      ∨ ∃ c₁ c₂, c = c₁.join o c₂ ∧ Tiered (ops :: tiers) c₁ l ∧ Tiered tiers c₂ r := by
  cases h with
  | next _ h => exact .inl h
  | join ho hl hr => exact .inr ⟨_, _, rfl, hl, hr⟩

/-- One operand is its own tree and no other. -/
theorem eq_of_single {x : Tree} (h : Tiered tiers (.single x) t) : x = t := by
  generalize hc : Chain.single x = c at h
  induction h with
  | operand t => exact congrArg Chain.first hc
  | next ops h ih => exact ih hc
  | join =>
    have := congrArg Chain.operators hc
    simp at this

/-- **Chains of operands of the same sizes with the same tree are the same
chain**, whatever tiers either of them is read under. -/
theorem chain_unique (h : Tiered tiers c t) (h' : Tiered tiers' c' t)
    (hleaves : c.map Tree.leaves = c'.map Tree.leaves) : c = c' := by
  induction h generalizing tiers' c' with
  | operand t =>
    have hc' := Chain.eq_single_of_operators_eq_nil (Chain.operators_eq_of_map_eq hleaves).symm
    rw [hc'] at h' ⊢
    rw [h'.eq_of_single]
  | next ops h ih => exact ih h' hleaves
  | @join ops tiers c d l r o ho hl hr ihl ihr =>
    obtain rfl | ⟨c₁, d₁, tiers₁, tiers₂, rfl, hl', hr'⟩ := h'.node_cases
    · have hops := Chain.operators_eq_of_map_eq hleaves
      simp at hops
    · rw [Chain.map_join, Chain.map_join] at hleaves
      have hsum : ((c.map Tree.leaves).operands.map id).sum
          = ((c₁.map Tree.leaves).operands.map id).sum := by
        rw [List.map_id, List.map_id, Chain.operands_map, Chain.operands_map,
          hl.sum_leaves_eq, hl'.sum_leaves_eq]
      have hpos : ∀ n ∈ ((c.map Tree.leaves).join o (d.map Tree.leaves)).operands, 0 < id n := by
        intro n hn
        rw [← Chain.map_join, Chain.operands_map, List.mem_map] at hn
        obtain ⟨t, -, rfl⟩ := hn
        exact t.leaves_pos
      obtain ⟨hc, -, hd⟩ := Chain.join_injective_of_sum hleaves hsum hpos
      rw [ihl hl' hc, ihr hr' hd]

end Tiered

end IntegerCalculator
