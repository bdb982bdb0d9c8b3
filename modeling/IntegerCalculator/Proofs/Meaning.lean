import IntegerCalculator.Proofs.Evaluation
import IntegerCalculator.Proofs.Formula
import Mathlib.Algebra.BigOperators.Group.List.Basic
import Mathlib.Algebra.Ring.Int.Defs
import Mathlib.Data.List.TakeWhile

/-!
# What a formula is worth

The passes give arithmetic a meaning of its own, and it can be told without any
tree. Cut a formula at every `+` and `-` into **terms**. In a term the operands
before the first `/` are multiplied, and so are all those behind it, whatever
joins them: the term is worth the quotient of the two products, cut toward
zero. The terms before the first `-` are added, all those behind it are
subtracted, whatever joins them. The formula has no value when a term divides
by zero or a group inside it has no value, and only then.

The proof goes up the tiers, and at each tier from left to right along the
joints of the chain (`Tiered.loosest_induction`): the product of a chain of `*`,
the quotient of a term, the sum of terms, the difference. Only the quotient
needs arithmetic, namely that dividing twice is dividing by the product
(`tdiv_tdiv`).
-/

namespace IntegerCalculator

namespace Chain

variable {α β : Type}

/-- The operands before the first `o`. -/
def upTo (o : Operator) (c : Chain α) : List α :=
  c.first :: (c.rest.takeWhile fun p => p.1 ≠ o).map Prod.snd

/-- The operands behind the first `o`, whatever joins them. -/
def past (o : Operator) (c : Chain α) : List α :=
  (c.rest.dropWhile fun p => p.1 ≠ o).map Prod.snd

/-- Cuts a chain that begins with `x` at the operators of `p`. -/
def cutFrom (p : Operator → Bool) (x : α) : List (Operator × α) → Chain (Chain α)
  | [] => single (single x)
  | (o, y) :: rest =>
    let pieces := cutFrom p y rest
    if p o then (single (single x)).join o pieces
    else ⟨(single x).join o pieces.first, pieces.rest⟩

/-- **A chain cut at the operators of `p`**: the chain of its pieces. -/
def cut (p : Operator → Bool) (c : Chain α) : Chain (Chain α) := cutFrom p c.first c.rest

@[simp] theorem upTo_join (c : Chain α) (o : Operator) (d : Chain α) :
    (c.join o d).upTo o = c.upTo o := by
  obtain ⟨x, rest⟩ := c
  have hlist : ∀ l m : List (Operator × α),
      (l ++ (o, d.first) :: m).takeWhile (fun p => p.1 ≠ o)
        = l.takeWhile fun p => p.1 ≠ o := by
    intro l m
    induction l with
    | nil => simp
    | cons q l ih => by_cases hq : q.1 = o <;> simp_all
  rw [upTo, upTo, join, hlist]

@[simp] theorem past_join (c : Chain α) (o : Operator) (d : Chain α) :
    (c.join o d).past o = c.past o ++ d.operands := by
  obtain ⟨x, rest⟩ := c
  have hlist : ∀ l m : List (Operator × α),
      (l ++ (o, d.first) :: m).dropWhile (fun p => p.1 ≠ o)
        = l.dropWhile (fun p => p.1 ≠ o) ++ (o, d.first) :: m := by
    intro l m
    induction l with
    | nil => simp
    | cons q l ih => by_cases hq : q.1 = o <;> simp_all
  rw [past, past, join, hlist, List.map_append]
  rfl

/-- Without the operator every operand stands before it. -/
theorem upTo_eq_operands {o : Operator} {c : Chain α} (h : o ∉ c.operators) :
    c.upTo o = c.operands := by
  have hall : ∀ p ∈ c.rest, decide (p.1 ≠ o) = true := fun p hp =>
    decide_eq_true fun e => h (e ▸ List.mem_map_of_mem hp)
  rw [upTo, List.takeWhile_eq_self_iff.mpr hall, operands]

theorem past_eq_nil {o : Operator} {c : Chain α} (h : o ∉ c.operators) :
    c.past o = [] := by
  have hall : ∀ p ∈ c.rest, decide (p.1 ≠ o) = true := fun p hp =>
    decide_eq_true fun e => h (e ▸ List.mem_map_of_mem hp)
  rw [past, List.dropWhile_eq_nil_iff.mpr hall, List.map_nil]

/-- **Two chains joined at a cut are cut apart.** -/
theorem cut_join {p : Operator → Bool} {o : Operator} (ho : p o = true) (c d : Chain α) :
    (c.join o d).cut p = (c.cut p).join o (d.cut p) := by
  obtain ⟨x, rest⟩ := c
  show cutFrom p x (rest ++ (o, d.first) :: d.rest) = (cutFrom p x rest).join o (d.cut p)
  induction rest generalizing x with
  | nil =>
    show (if p o then (single (single x)).join o (d.cut p)
      else ⟨(single x).join o (d.cut p).first, (d.cut p).rest⟩) = _
    rw [if_pos ho]
    rfl
  | cons q rest ih =>
    obtain ⟨o', y⟩ := q
    rw [List.cons_append, cutFrom, cutFrom, ih y]
    by_cases ho' : p o' = true
    · rw [if_pos ho', if_pos ho']
      simp [join]
    · rw [if_neg ho', if_neg ho']
      simp [join]

/-- A chain without cuts is one piece. -/
theorem cut_eq_single {p : Operator → Bool} {c : Chain α}
    (h : ∀ o ∈ c.operators, p o = false) : c.cut p = single c := by
  obtain ⟨x, rest⟩ := c
  show cutFrom p x rest = single ⟨x, rest⟩
  induction rest generalizing x with
  | nil => rfl
  | cons q rest ih =>
    obtain ⟨o, y⟩ := q
    have ho : ¬ p o = true := by simp [h o List.mem_cons_self]
    rw [cutFrom, ih y fun o ho => h o (List.mem_cons_of_mem _ ho), if_neg ho]
    rfl

/-- The pieces are joined by the operators of the cuts. -/
theorem operators_cut (p : Operator → Bool) (c : Chain α) :
    (c.cut p).operators = c.operators.filter p := by
  obtain ⟨x, rest⟩ := c
  show (cutFrom p x rest).operators = (rest.map Prod.fst).filter p
  induction rest generalizing x with
  | nil => rfl
  | cons q rest ih =>
    obtain ⟨o, y⟩ := q
    rw [cutFrom, List.map_cons, List.filter_cons, ← ih y]
    by_cases ho : p o = true
    · rw [if_pos ho, if_pos ho, operators_join]
      rfl
    · rw [if_neg ho, if_neg ho]
      rfl

/-! ## A chain of integers -/

/-- Whether an operator ends a term. -/
def endsTerm (o : Operator) : Bool := o = .add || o = .sub

/-- **The terms**, joined by `+` and `-`. -/
def terms (c : Chain Int) : Chain (Chain Int) := c.cut endsTerm

/-- The product of the operands of a term up to its first `/`. -/
def dividend (t : Chain Int) : Int := (t.upTo .div).prod

/-- The product of all operands behind the first `/`. -/
def divisor (t : Chain Int) : Int := (t.past .div).prod

/-- What a term is worth. -/
def quotient (t : Chain Int) : Int := t.dividend.tdiv t.divisor

/-- **What a chain is worth**: the terms before the first `-`, less all those
behind it. -/
def total (c : Chain Int) : Int :=
  ((c.terms.upTo .sub).map quotient).sum - ((c.terms.past .sub).map quotient).sum

end Chain

/-! ## The value of a chain of trees

Throughout, `w` gives the value of each operand of the chain. -/

/-- Dividing twice is dividing by the product, also when the quotients are cut
toward zero. -/
theorem tdiv_tdiv (a b c : Int) : (a.tdiv b).tdiv c = a.tdiv (b * c) := by
  have hnat : ∀ m n k : Nat, ((m : Int).tdiv n).tdiv k = (m : Int).tdiv (n * k) := by
    intro m n k
    rw [← Int.ofNat_tdiv, ← Int.ofNat_tdiv, Nat.div_div_eq_div_mul, ← Int.natCast_mul,
      ← Int.ofNat_tdiv]
  obtain ⟨m, rfl | rfl⟩ := a.eq_nat_or_neg <;>
  obtain ⟨n, rfl | rfl⟩ := b.eq_nat_or_neg <;>
  obtain ⟨k, rfl | rfl⟩ := c.eq_nat_or_neg <;>
  simp only [hnat, Int.tdiv_neg, Int.neg_tdiv, Int.mul_neg, Int.neg_mul, neg_neg]

namespace Tree

/-- **The tree is worth `n`, unless one of the terms divides by zero**; then it
has no value. -/
def Yields (t : Tree) (terms : List (Chain Int)) (n : Int) : Prop :=
  ((∃ x ∈ terms, x.divisor = 0) → t.value = .error .divisionByZero)
    ∧ ((∀ x ∈ terms, x.divisor ≠ 0) → t.value = .ok n)

namespace Yields

/-- A term is worth its quotient. -/
theorem of_term {t : Tree} {x : Chain Int}
    (h : t.value = if x.divisor = 0 then .error .divisionByZero else .ok x.quotient) :
    t.Yields [x] x.quotient := by
  rw [Yields, h]
  simp +contextual

/-- **A node whose operator never fails has no value exactly when one of its
operands has none.** -/
theorem node {l r : Tree} {xs ys : List (Chain Int)} {a b n : Int} {o : Operator}
    (hl : l.Yields xs a) (hr : r.Yields ys b) (ho : o.apply a b = .ok n) :
    (node l o r).Yields (xs ++ ys) n := by
  constructor
  · rintro ⟨x, hx, hzero⟩
    rcases List.mem_append.mp hx with hx | hx
    · exact value_node_of_left (hl.1 ⟨x, hx, hzero⟩)
    · exact value_node_of_right (hr.1 ⟨x, hx, hzero⟩)
  · intro h
    rw [value_node (hl.2 fun x hx => h x (List.mem_append_left _ hx))
      (hr.2 fun x hx => h x (List.mem_append_right _ hx)), ho]

end Yields

end Tree

namespace Tiered

variable {w : Tree → Int} {c : Chain Tree} {t : Tree}

/-- **An operand without a value leaves the whole chain without one.** -/
theorem value_of_operand_error {tiers : List (List Operator)} (h : Tiered tiers c t)
    {u : Tree} (hu : u ∈ c.operands) {e : CalcError} (he : u.value = .error e) :
    t.value = .error .divisionByZero := by
  induction h with
  | operand t =>
    obtain rfl := List.mem_singleton.mp hu
    rw [he, Tree.eq_divisionByZero_of_value he]
  | next ops h ih => exact ih hu
  | @join ops tiers c d l r o ho hl hr ihl ihr =>
    rw [Chain.operands_join, List.mem_append] at hu
    rcases hu with hu | hu
    · exact Tree.value_node_of_left (ihl hu)
    · exact Tree.value_node_of_right (ihr hu)

/-- **A chain of `*` is a product.** -/
theorem value_product (h : Tiered [[.mul]] c t)
    (hw : ∀ u ∈ c.operands, u.value = .ok (w u)) :
    t.value = .ok (c.map w).operands.prod := by
  induction h using loosest_induction with
  | next c t h =>
    obtain rfl := h.eq_single
    simpa using hw t List.mem_cons_self
  | join c d l r o ho hl hr ih =>
    obtain rfl := List.mem_singleton.mp ho
    obtain rfl := hr.eq_single
    rw [Chain.operands_join] at hw
    have hl := ih fun u hu => hw u (List.mem_append_left _ hu)
    have hr := hw r (List.mem_append_right _ List.mem_cons_self)
    rw [Tree.value_node hl hr]
    simp [Operator.apply]

/-- **A term is a quotient of two products**, and has no value when the second
one is zero. -/
theorem value_term (h : Tiered [[.div], [.mul]] c t)
    (hw : ∀ u ∈ c.operands, u.value = .ok (w u)) :
    t.value = if (c.map w).divisor = 0 then .error .divisionByZero
      else .ok (c.map w).quotient := by
  induction h using loosest_induction with
  | next c t h =>
    have hdiv : Operator.div ∉ (c.map w).operators := by
      intro hmem
      rw [Chain.operators_map] at hmem
      exact absurd (h.operators_subset _ hmem) (by decide)
    rw [h.value_product hw, Chain.quotient, Chain.dividend, Chain.divisor,
      Chain.past_eq_nil hdiv, Chain.upTo_eq_operands hdiv]
    simp
  | join c d l r o ho hl hr ih =>
    obtain rfl := List.mem_singleton.mp ho
    rw [Chain.operands_join] at hw
    have hlv := ih fun u hu => hw u (List.mem_append_left _ hu)
    have hrv := hr.value_product fun u hu => hw u (List.mem_append_right _ hu)
    have hdividend : ((c.join .div d).map w).dividend = (c.map w).dividend := by
      rw [Chain.map_join, Chain.dividend, Chain.upTo_join, Chain.dividend]
    have hdivisor : ((c.join .div d).map w).divisor
        = (c.map w).divisor * (d.map w).operands.prod := by
      rw [Chain.map_join, Chain.divisor, Chain.past_join, List.prod_append, Chain.divisor]
    rw [Chain.quotient, hdividend, hdivisor]
    by_cases hzero : (c.map w).divisor = 0
    · rw [if_pos hzero] at hlv
      rw [Tree.value_node_of_left hlv, hzero, zero_mul, if_pos rfl]
    · rw [if_neg hzero] at hlv
      rw [Tree.value_node hlv hrv, Operator.apply, Chain.quotient, tdiv_tdiv]
      simp only [mul_eq_zero, hzero, false_or]

/-- A chain of `*` and `/` is one term. -/
theorem terms_of_term (h : Tiered [[.div], [.mul]] c t) :
    (c.map w).terms = .single (c.map w) := by
  refine Chain.cut_eq_single fun o ho => ?_
  rw [Chain.operators_map] at ho
  have ho : o = .div ∨ o = .mul := by simpa using h.operators_subset o ho
  rcases ho with rfl | rfl <;> rfl

/-- **Terms joined by `+` are added.** -/
theorem yields_sum (h : Tiered [[.add], [.div], [.mul]] c t)
    (hw : ∀ u ∈ c.operands, u.value = .ok (w u)) :
    t.Yields (c.map w).terms.operands
      ((c.map w).terms.operands.map Chain.quotient).sum := by
  induction h using loosest_induction with
  | next c t h =>
    rw [h.terms_of_term, Chain.operands_single, List.map_singleton, List.sum_singleton]
    exact .of_term (h.value_term hw)
  | join c d l r o ho hl hr ih =>
    obtain rfl := List.mem_singleton.mp ho
    rw [Chain.operands_join] at hw
    have hlv := ih fun u hu => hw u (List.mem_append_left _ hu)
    have hrv := Tree.Yields.of_term
      (hr.value_term fun u hu => hw u (List.mem_append_right _ hu))
    have hterms : ((c.join .add d).map w).terms
        = (c.map w).terms.join .add (.single (d.map w)) := by
      rw [Chain.map_join, Chain.terms, Chain.cut_join rfl, ← hr.terms_of_term]
      rfl
    rw [hterms, Chain.operands_join, List.map_append, List.sum_append]
    refine hlv.node hrv ?_
    simp [Operator.apply]

/-- **The terms behind the first `-` are subtracted from those before it.** -/
theorem yields_total (h : Tiered passTiers c t)
    (hw : ∀ u ∈ c.operands, u.value = .ok (w u)) :
    t.Yields (c.map w).terms.operands (c.map w).total := by
  induction h using loosest_induction with
  | next c t h =>
    have hsub : Operator.sub ∉ (c.map w).terms.operators := by
      intro hmem
      rw [Chain.terms, Chain.operators_cut, List.mem_filter, Chain.operators_map] at hmem
      exact absurd (h.operators_subset _ hmem.1) (by decide)
    rw [Chain.total, Chain.past_eq_nil hsub, Chain.upTo_eq_operands hsub, List.map_nil,
      List.sum_nil, sub_zero]
    exact h.yields_sum hw
  | join c d l r o ho hl hr ih =>
    obtain rfl := List.mem_singleton.mp ho
    rw [Chain.operands_join] at hw
    have hlv := ih fun u hu => hw u (List.mem_append_left _ hu)
    have hrv := hr.yields_sum fun u hu => hw u (List.mem_append_right _ hu)
    have hterms : ((c.join .sub d).map w).terms
        = (c.map w).terms.join .sub (d.map w).terms := by
      rw [Chain.map_join, Chain.terms, Chain.cut_join rfl]
      rfl
    rw [Chain.total, hterms, Chain.operands_join, Chain.upTo_join, Chain.past_join,
      List.map_append, List.sum_append]
    refine hlv.node hrv ?_
    rw [Operator.apply, Chain.total, sub_sub]

end Tiered

/-! ## The value of a formula -/

/-- A chain of trees that all have a value, or else one that has none. -/
theorem Chain.exists_value (c : Chain Tree) :
    (∃ u ∈ c.operands, u.value = .error .divisionByZero)
      ∨ ∃ w : Tree → Int, ∀ u ∈ c.operands, u.value = .ok (w u) := by
  by_cases h : ∃ u ∈ c.operands, u.value = .error .divisionByZero
  · exact .inl h
  · refine .inr ⟨fun u => u.value.toOption.getD 0, fun u hu => ?_⟩
    cases hv : u.value with
    | ok v =>
      show _ = Except.ok (u.value.toOption.getD 0)
      rw [hv]
      rfl
    | error e => exact absurd ⟨u, hu, Tree.eq_divisionByZero_of_value hv ▸ hv⟩ h

/-- **What a formula is worth, without its tree.**

The text of a formula, and every text with the same tokens, has no value when
a group in it has none. Otherwise its operands are integers, it has no value
exactly when one of its terms divides by zero, and else its value is the total
of its terms. -/
theorem calculate_formula (f : Formula) :
    tokenize f.text = f.tokens ∧ ∀ s, tokenize s = f.tokens →
      ((∃ x ∈ f.operands, x.outcome = .error .divisionByZero) →
          calculate s = .error .divisionByZero)
        ∧ ((∀ x ∈ f.operands, x.outcome ≠ .error .divisionByZero) →
          ∃ d : Chain Int, f.map Operand.outcome = d.map .ok
            ∧ (calculate s = .error .divisionByZero
              ↔ ∃ t ∈ d.terms.operands, t.divisor = 0)
            ∧ ((∀ t ∈ d.terms.operands, t.divisor ≠ 0) →
              calculate s = .ok d.total)) := by
  refine ⟨f.tokenize_text, fun s hs => ?_⟩
  obtain ⟨c, hspells, hvalues⟩ := f.exists_spells
  obtain ⟨t, ht⟩ := Level.exists_toTree_items c
  have htiers := Level.toTree_items_eq_ok_iff.mp ht
  have hs : calculate s = t.value := calculate_of_spells (hs ▸ hspells) ht
  have houtcomes : f.operands.map Operand.outcome = c.operands.map Tree.value := by
    rw [← Chain.operands_map, ← Chain.operands_map, hvalues]
  rw [hs]
  refine ⟨?_, fun hgroups => ?_⟩
  · rintro ⟨x, hx, herror⟩
    have hmem : .error .divisionByZero ∈ c.operands.map Tree.value := by
      rw [← houtcomes, ← herror]
      exact List.mem_map_of_mem hx
    obtain ⟨u, hu, hvalue⟩ := List.mem_map.mp hmem
    exact htiers.value_of_operand_error hu hvalue
  · rcases c.exists_value with ⟨u, hu, herror⟩ | ⟨w, hw⟩
    · have hmem : .error .divisionByZero ∈ f.operands.map Operand.outcome := by
        rw [houtcomes, ← herror]
        exact List.mem_map_of_mem hu
      obtain ⟨x, hx, houtcome⟩ := List.mem_map.mp hmem
      exact absurd houtcome (hgroups x hx)
    · obtain ⟨hzero, htotal⟩ := htiers.yields_total hw
      refine ⟨c.map w, ?_, ⟨fun h => ?_, hzero⟩, htotal⟩
      · rw [← hvalues, Chain.map_map]
        exact Chain.map_congr hw
      · by_contra hnone
        rw [htotal fun x hx hx0 => hnone ⟨x, hx, hx0⟩] at h
        cases h

/-- The product stands behind the `/` and the sum behind the `-`: this is
`7 / ((0-2) * 3)`, less both `3-1` and `5`. -/
theorem calculate_formula_mixed :
    calculate "7 / (0-2) * 3 - (3-1) + 5".toList = .ok (-8) := by
  let f : Formula := ⟨.number ['7'] rfl, [
    (.div, .group ⟨.number ['0'] rfl, [(.sub, .number ['2'] rfl)]⟩),
    (.mul, .number ['3'] rfl),
    (.sub, .group ⟨.number ['3'] rfl, [(.sub, .number ['1'] rfl)]⟩),
    (.add, .number ['5'] rfl)]⟩
  let c : Chain Int := ⟨7, [(.div, -2), (.mul, 3), (.sub, 2), (.add, 5)]⟩
  have htokens : tokenize "7 / (0-2) * 3 - (3-1) + 5".toList = f.tokens := by decide
  have houtcomes : f.map Operand.outcome = c.map .ok := by decide +kernel
  have hgroups : ∀ x ∈ f.operands, x.outcome ≠ .error .divisionByZero := by
    intro x hx herror
    have hmem : Except.error .divisionByZero ∈ (f.map Operand.outcome).operands := by
      rw [Chain.operands_map, ← herror]
      exact List.mem_map_of_mem hx
    rw [houtcomes, Chain.operands_map] at hmem
    simp at hmem
  obtain ⟨d, hd, -, htotal⟩ := ((calculate_formula f).2 _ htokens).2 hgroups
  obtain rfl : c = d :=
    Chain.map_injective (fun _ _ => Except.ok.inj) (houtcomes.symm.trans hd)
  exact htotal (by decide)

end IntegerCalculator
