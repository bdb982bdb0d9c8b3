import IntegerCalculator.Proofs.Bracketing
import IntegerCalculator.Proofs.Listing

/-!
# How high a tree gets

A tree with a given number of leaves is highest if each operator has a leaf for
one of its operands, and lowest if all operators split their leaves evenly:
its height lies between the number of leaves and the logarithm of that number
(`Tree.height_le_leaves`, `Tree.leaves_le_two_pow`).

A tree that was read from tokens has a leaf for each number among them
(`Derives.leaves_eq`), whatever the parentheses, so the numbers bound its
height. The upper bound is reached by a long chain of one operator: a grammar of
tiers leans to the left, and on the right of an operator it goes on with the
operators of the tighter tiers alone. If there is only one operator in the
tokens, and it has but one tier, then nothing is left for the right side to be
but a number (`Derives.height_eq_leaves`).
-/

namespace IntegerCalculator

namespace Tree

/-- The number of operators. -/
def operators : Tree → Nat
  | leaf _ => 0
  | node l _ r => l.operators + r.operators + 1

/-- **There is one operator less than leaves.** -/
theorem operators_add_one (t : Tree) : t.operators + 1 = t.leaves := by
  induction t with
  | leaf _ => rfl
  | node l op r hl hr =>
    rw [operators, leaves, ← hl, ← hr]
    omega

theorem height_pos (t : Tree) : 0 < t.height := by
  cases t <;> simp [height]

/-- **A tree is at most as high as it has leaves.** -/
theorem height_le_leaves (t : Tree) : t.height ≤ t.leaves := by
  induction t with
  | leaf _ => exact Nat.le_refl 1
  | node l op r hl hr =>
    have hleft := l.leaves_pos
    have hright := r.leaves_pos
    rw [height, leaves]
    omega

/-- **Each level at most doubles the leaves.** -/
theorem two_mul_leaves_le (t : Tree) : 2 * t.leaves ≤ 2 ^ t.height := by
  induction t with
  | leaf _ => exact Nat.le_refl 2
  | node l op r hl hr =>
    have hpow {n : Nat} (hn : n ≤ max l.height r.height) :
        2 ^ n ≤ 2 ^ max l.height r.height := Nat.pow_le_pow_right (by decide) hn
    calc 2 * (l.leaves + r.leaves)
        = 2 * l.leaves + 2 * r.leaves := Nat.mul_add ..
      _ ≤ 2 ^ l.height + 2 ^ r.height := Nat.add_le_add hl hr
      _ ≤ 2 ^ max l.height r.height + 2 ^ max l.height r.height :=
        Nat.add_le_add (hpow (Nat.le_max_left ..)) (hpow (Nat.le_max_right ..))
      _ = 2 ^ (max l.height r.height + 1) := by rw [Nat.pow_succ, Nat.mul_two]

/-- **The leaves are at most a power of two**, one less than the height. -/
theorem leaves_le_two_pow (t : Tree) : t.leaves ≤ 2 ^ (t.height - 1) := by
  have hheight : t.height = t.height - 1 + 1 := (Nat.sub_add_cancel t.height_pos).symm
  have h := t.two_mul_leaves_le
  rw [hheight, Nat.pow_succ] at h
  omega

end Tree

/-- The token is a number. -/
def Token.isNumber : Token → Bool
  | .number _ => true
  | .operator _ | .openParen | .closeParen => false

namespace Derives

variable {grammar tiers : List (List Operator)} {ts : List Token} {t : Tree}

/-- **A sentence has a number for each leaf of its tree.** -/
theorem leaves_eq (h : Derives grammar tiers ts t) : t.leaves = ts.countP Token.isNumber := by
  induction h with
  | number _ _ => rfl
  | group _ ih => simp [ih, Token.isNumber]
  | next _ _ ih => exact ih
  | join _ _ _ ihl ihr =>
    rw [Tree.leaves, ihl, ihr, List.countP_append,
      List.countP_cons_of_neg (by simp [Token.isNumber])]

section

variable (hflat : ∀ tok ∈ ts, tok.isParenthesis = false)

include hflat

/-- **Outside parentheses a nonterminal reads the operators of its own tiers
only.** -/
theorem operator_mem_flatten (h : Derives grammar tiers ts t) {o : Operator}
    (ho : .operator o ∈ ts) : o ∈ tiers.flatten := by
  induction h with
  | number _ _ => simp at ho
  | group _ _ => exact absurd (hflat _ List.mem_cons_self) (by decide)
  | next ops h ih => exact List.mem_append_right ops (ih hflat ho)
  | @join ops tiers ts us l r p hp hl hr ihl ihr =>
    rcases List.mem_append.mp ho with ho | ho
    · exact ihl (fun tok htok => hflat tok (List.mem_append_left _ htok)) ho
    · rcases List.mem_cons.mp ho with heq | ho
      · cases heq
        exact List.mem_append_left _ hp
      · refine List.mem_append_right ops (ihr (fun tok htok => ?_) ho)
        exact hflat tok (List.mem_append_right ts (List.mem_cons_of_mem _ htok))

/-- Without operators and parentheses there is just one number. -/
theorem leaves_eq_one (h : Derives grammar tiers ts t) (hno : ∀ o, .operator o ∉ ts) :
    t.leaves = 1 := by
  induction h with
  | number _ _ => rfl
  | group _ _ => exact absurd (hflat _ List.mem_cons_self) (by decide)
  | next ops h ih => exact ih hflat hno
  | join _ _ _ _ _ => exact absurd (List.mem_append_right _ List.mem_cons_self) (hno _)

/-- **A chain of one operator makes a tree as high as it has leaves**, if no
operator has two tiers. -/
theorem height_eq_leaves (h : Derives grammar tiers ts t) (hnodup : tiers.flatten.Nodup)
    {o : Operator} (hone : ∀ p, .operator p ∈ ts → p = o) : t.height = t.leaves := by
  induction h with
  | number _ _ => rfl
  | group _ _ => exact absurd (hflat _ List.mem_cons_self) (by decide)
  | next ops h ih => exact ih hflat (List.nodup_append.mp hnodup).2.1 hone
  | @join ops tiers ts us l r p hp hl hr ihl ihr =>
    obtain ⟨-, -, hdisjoint⟩ := List.nodup_append.mp hnodup
    have hts {tok : Token} (htok : tok ∈ ts) : tok ∈ ts ++ .operator p :: us :=
      List.mem_append_left _ htok
    have hus {tok : Token} (htok : tok ∈ us) : tok ∈ ts ++ .operator p :: us :=
      List.mem_append_right ts (List.mem_cons_of_mem _ htok)
    have hleft : l.height = l.leaves :=
      ihl (fun tok htok => hflat tok (hts htok)) hnodup fun q hq => hone q (hts hq)
    have hflat_us : ∀ tok ∈ us, tok.isParenthesis = false := fun tok htok => hflat tok (hus htok)
    -- the operator has its tier here, so it is none of the tiers on the right
    have hno : ∀ q, .operator q ∉ us := by
      intro q hq
      have hpq : p = q := by
        rw [hone q (hus hq), hone p (List.mem_append_right ts List.mem_cons_self)]
      exact hdisjoint p hp q (hr.operator_mem_flatten hflat_us hq) hpq
    have hright : r.leaves = 1 := hr.leaves_eq_one hflat_us hno
    have hl_pos := l.leaves_pos
    have hr_height := r.height_le_leaves
    rw [Tree.height, Tree.leaves, hleft, hright]
    omega

end

end Derives

namespace Tree

/-- **The numbers among the tokens bound the height.** The walk counts the levels
of the recursion, on any tree. If a tree was read from tokens, then it has a
leaf for each number and one operator less; it has at most as many levels as
there are numbers, and as many numbers as fit on these levels at most. Without
parentheses and with one operator only, it has as many levels as there are
numbers. -/
theorem levels_and_numbers :
    (∀ t : Tree, t.levels = t.height)
    ∧ ∀ ts t, Tree.parse ts = .ok t →
        t.leaves = ts.countP Token.isNumber
        ∧ t.operators + 1 = ts.countP Token.isNumber
        ∧ t.levels ≤ ts.countP Token.isNumber
        ∧ ts.countP Token.isNumber ≤ 2 ^ (t.levels - 1)
        ∧ ((∀ tok ∈ ts, tok.isParenthesis = false) →
            (∃ o, ∀ p, .operator p ∈ ts → p = o) →
              t.levels = ts.countP Token.isNumber) := by
  refine ⟨levels_eq_height, fun ts t h => ?_⟩
  have hderives := derives_of_parse h
  rw [levels_eq_height, ← hderives.leaves_eq]
  refine ⟨rfl, t.operators_add_one, t.height_le_leaves, t.leaves_le_two_pow, ?_⟩
  rintro hflat ⟨o, hone⟩
  exact hderives.height_eq_leaves hflat ranks_passTiers.nodup hone

/-- `8 - 3 - 2 - 1` has a level for each number, and `(1 + 2) * (3 + 4)` has
as few as four numbers can have. -/
theorem levels_and_numbers_four :
    (∃ t, Tree.parse (tokenize "8 - 3 - 2 - 1".toList) = .ok t ∧ t.levels = 4)
    ∧ ∃ t, Tree.parse (tokenize "(1 + 2) * (3 + 4)".toList) = .ok t
        ∧ t.leaves = 4 ∧ t.operators = 3 ∧ 4 ≤ 2 ^ (t.levels - 1) := by
  obtain ⟨-, h⟩ := levels_and_numbers
  constructor
  · let t : Tree :=
      .node (.node (.node (.leaf 8) .sub (.leaf 3)) .sub (.leaf 2)) .sub (.leaf 1)
    have hparse : Tree.parse (tokenize "8 - 3 - 2 - 1".toList) = .ok t :=
      eq_ok_of_toOption (by decide +kernel)
    have hone : ∀ p, .operator p ∈ tokenize "8 - 3 - 2 - 1".toList → p = .sub := by
      intro p
      cases p <;> decide +kernel
    obtain ⟨-, -, -, -, hchain⟩ := h _ t hparse
    exact ⟨t, hparse, (hchain (by decide +kernel) ⟨.sub, hone⟩).trans (by decide +kernel)⟩
  · let t : Tree := .node (.node (.leaf 1) .add (.leaf 2)) .mul (.node (.leaf 3) .add (.leaf 4))
    have hparse : Tree.parse (tokenize "(1 + 2) * (3 + 4)".toList) = .ok t :=
      eq_ok_of_toOption (by decide +kernel)
    have hcount : (tokenize "(1 + 2) * (3 + 4)".toList).countP Token.isNumber = 4 := by
      decide +kernel
    obtain ⟨hleaves, hoperators, -, hbound, -⟩ := h _ t hparse
    rw [hcount] at hleaves hoperators hbound
    exact ⟨t, hparse, hleaves, Nat.succ.inj hoperators, hbound⟩

end Tree

end IntegerCalculator
