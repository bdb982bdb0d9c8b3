import IntegerCalculator.Level.Basic

/-!
# Chains of operands

A level that makes sense is a **chain**: an operand, then any number of
operators, each with an operand behind it. A chain can be joined to
another by an operator, and its items (`Chain.items`) are the level that it
stands for.

What tree a chain has is a matter of **tiers**. A tier is a set of operators
that rank together; the tiers are listed from the loosest to the tightest.
`Tiered tiers c t` says that `t` is the tree of `c` under these tiers: a chain
is cut at the operators of the loosest tier, the pieces are read by the tiers
below, and the trees of the pieces are nested to the left. The four passes
over a level are the four tiers of `passTiers`, one operator each; a
conventional reading has two tiers of two operators.
-/

namespace IntegerCalculator

/-- **A chain**: an operand, then operators with the operand behind each. -/
structure Chain (α : Type) where
  first : α
  rest : List (Operator × α)
  deriving DecidableEq

namespace Chain

variable {α β : Type}

/-- The chain of one operand. -/
def single (x : α) : Chain α := ⟨x, []⟩

/-- **Two chains joined by an operator.** -/
def join (c : Chain α) (o : Operator) (d : Chain α) : Chain α :=
  ⟨c.first, c.rest ++ (o, d.first) :: d.rest⟩

/-- The operands, from left to right. -/
def operands (c : Chain α) : List α := c.first :: c.rest.map Prod.snd

/-- The operators, from left to right. -/
def operators (c : Chain α) : List Operator := c.rest.map Prod.fst

/-- The chain with each operand replaced. -/
def map (f : α → β) (c : Chain α) : Chain β :=
  ⟨f c.first, c.rest.map fun p => (p.1, f p.2)⟩

/-- An operator and the operand behind it, as items. -/
def linkItems (p : Operator × Tree) : Level := [.operator p.1, .operand p.2]

/-- **The level of a chain.** -/
def items (c : Chain Tree) : Level :=
  .operand c.first :: c.rest.flatMap linkItems

@[simp] theorem operands_single (x : α) : (single x).operands = [x] := rfl

@[simp] theorem operators_single (x : α) : (single x).operators = [] := rfl

@[simp] theorem items_single (t : Tree) : (single t).items = [.operand t] := rfl

@[simp] theorem map_single (f : α → β) (x : α) :
    (single x).map f = single (f x) := rfl

@[simp] theorem operands_join (c : Chain α) (o : Operator) (d : Chain α) :
    (c.join o d).operands = c.operands ++ d.operands := by
  simp [operands, join]

@[simp] theorem operators_join (c : Chain α) (o : Operator) (d : Chain α) :
    (c.join o d).operators = c.operators ++ o :: d.operators := by
  simp [operators, join]

@[simp] theorem items_join (c : Chain Tree) (o : Operator) (d : Chain Tree) :
    (c.join o d).items = c.items ++ .operator o :: d.items := by
  simp [items, join, linkItems]

theorem flatMap_linkItems_injective {l m : List (Operator × Tree)}
    (h : l.flatMap linkItems = m.flatMap linkItems) : l = m := by
  induction l generalizing m with
  | nil =>
    cases m with
    | nil => rfl
    | cons q m => cases h
  | cons p l ih =>
    cases m with
    | nil => cases h
    | cons q m =>
      obtain ⟨o, t⟩ := p
      obtain ⟨o', t'⟩ := q
      simp only [List.flatMap_cons, linkItems, List.cons_append, List.nil_append,
        List.cons.injEq, Item.operator.injEq, Item.operand.injEq] at h
      obtain ⟨rfl, rfl, h⟩ := h
      rw [ih h]

/-- **A level is the level of one chain at most.** -/
theorem items_injective {c d : Chain Tree} (h : c.items = d.items) : c = d := by
  obtain ⟨t, links⟩ := c
  obtain ⟨u, links'⟩ := d
  obtain ⟨ht, hlinks⟩ := List.cons.inj h
  obtain rfl : t = u := Item.operand.inj ht
  obtain rfl : links = links' := flatMap_linkItems_injective hlinks
  rfl

@[simp] theorem map_join (f : α → β) (c : Chain α) (o : Operator) (d : Chain α) :
    (c.join o d).map f = (c.map f).join o (d.map f) := by
  simp [map, join]

@[simp] theorem operands_map (f : α → β) (c : Chain α) :
    (c.map f).operands = c.operands.map f := by
  simp [operands, map]

@[simp] theorem operators_map (f : α → β) (c : Chain α) :
    (c.map f).operators = c.operators := by
  simp [operators, map]

/-- Chains mapped to the same have the same operators. -/
theorem operators_eq_of_map_eq {γ : Type} {f : α → γ} {g : β → γ} {c : Chain α} {d : Chain β}
    (h : c.map f = d.map g) : c.operators = d.operators := by
  rw [← operators_map f c, h, operators_map]

/-- What stands behind an operator is an operand. -/
theorem mem_operands_of_mem_rest {c : Chain α} {p : Operator × α} (hp : p ∈ c.rest) :
    p.2 ∈ c.operands :=
  List.mem_cons_of_mem _ (List.mem_map_of_mem hp)

theorem map_map {γ : Type} (f : α → β) (g : β → γ) (c : Chain α) :
    (c.map f).map g = c.map fun x => g (f x) := by
  simp [map]

/-- Only what stands in the chain decides what it is mapped to. -/
theorem map_congr {f g : α → β} {c : Chain α} (h : ∀ x ∈ c.operands, f x = g x) :
    c.map f = c.map g := by
  rw [map, map, h _ List.mem_cons_self]
  refine congrArg _ (List.map_congr_left fun p hp => ?_)
  rw [h _ (mem_operands_of_mem_rest hp)]

/-- What a chain is mapped to tells the chain, if it tells every operand. -/
theorem map_injective {f : α → β} (hf : ∀ x y, f x = f y → x = y) {c d : Chain α}
    (h : c.map f = d.map f) : c = d := by
  obtain ⟨x, rest⟩ := c
  obtain ⟨y, rest'⟩ := d
  obtain ⟨hx, hrest⟩ := Chain.mk.inj h
  obtain rfl : x = y := hf x y hx
  have hlinks : ∀ p q : Operator × α, (p.1, f p.2) = (q.1, f q.2) → p = q := by
    intro p q hpq
    obtain ⟨ho, hp⟩ := Prod.mk.inj hpq
    exact Prod.ext ho (hf _ _ hp)
  obtain rfl : rest = rest' := (List.map_inj_right hlinks).mp hrest
  rfl

/-- A chain without operators is one operand. -/
theorem eq_single_of_operators_eq_nil {c : Chain α} (h : c.operators = []) :
    c = single c.first := by
  obtain ⟨x, rest⟩ := c
  rw [operators, List.map_eq_nil_iff] at h
  subst h
  rfl

end Chain

/-! ## Tiers -/

/-- **The tree of a chain under the given tiers**, the loosest first. With no
tier left there is one operand. -/
inductive Tiered : List (List Operator) → Chain Tree → Tree → Prop
  | operand (t : Tree) : Tiered [] (.single t) t
  | next (ops : List Operator) {tiers : List (List Operator)} {c : Chain Tree}
      {t : Tree} : Tiered tiers c t → Tiered (ops :: tiers) c t
  | join {ops : List Operator} {tiers : List (List Operator)} {c d : Chain Tree}
      {l r : Tree} {o : Operator} :
      o ∈ ops → Tiered (ops :: tiers) c l → Tiered tiers d r →
        Tiered (ops :: tiers) (c.join o d) (.node l o r)

/-- The tiers of the passes: one operator each, the last pass first. -/
def passTiers : List (List Operator) := [[.sub], [.add], [.div], [.mul]]

namespace Tiered

/-- With no tier there is one operand, which is the tree. -/
theorem eq_single {c : Chain Tree} {t : Tree} (h : Tiered [] c t) : c = .single t := by
  cases h
  rfl

/-- One operand is its own tree under any tiers. -/
theorem single (tiers : List (List Operator)) (t : Tree) :
    Tiered tiers (.single t) t := by
  induction tiers with
  | nil => exact operand t
  | cons ops tiers ih => exact next ops ih

/-- **Induction along the joints of the loosest tier**, from left to right. -/
theorem loosest_induction {ops : List Operator} {tiers : List (List Operator)}
    {motive : ∀ c t, Tiered (ops :: tiers) c t → Prop}
    (next : ∀ c t (h : Tiered tiers c t), motive c t (.next ops h))
    (join : ∀ c d l r o (ho : o ∈ ops) (hl : Tiered (ops :: tiers) c l)
      (hr : Tiered tiers d r), motive c l hl → motive (c.join o d) (.node l o r) (.join ho hl hr))
    {c : Chain Tree} {t : Tree} : (h : Tiered (ops :: tiers) c t) → motive c t h
  | .next _ h => next _ _ h
  | .join ho hl hr => join _ _ _ _ _ ho hl hr (loosest_induction next join hl)

/-- **Every operator of a chain belongs to one of its tiers.** -/
theorem operators_subset {tiers : List (List Operator)} {c : Chain Tree} {t : Tree}
    (h : Tiered tiers c t) : ∀ o ∈ c.operators, o ∈ tiers.flatten := by
  induction h with
  | operand t => simp
  | next ops h ih =>
    intro o ho
    exact List.mem_append_right _ (ih o ho)
  | join hop hl hr ihl ihr =>
    intro o ho
    rw [Chain.operators_join, List.mem_append, List.mem_cons] at ho
    rcases ho with ho | rfl | ho
    · exact ihl o ho
    · exact List.mem_append_left _ hop
    · exact List.mem_append_right _ (ihr o ho)

end Tiered

end IntegerCalculator
