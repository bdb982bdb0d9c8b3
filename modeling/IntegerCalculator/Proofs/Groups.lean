import IntegerCalculator.Proofs.FirstFault

/-!
# A group in any surroundings

What stands between two parentheses that match is read as if it stood alone.
The reading never looks below the level that the opening parenthesis has
started: whatever lies deeper on the stack of interrupted levels comes out
unchanged (`Reading.readAll_above`). So a group puts the tree of its inside on
the level around it, or ends the reading with the error of its inside, and
which of the two it is does not depend on the level around it
(`Reading.readAll_enclosed`).

The surroundings may therefore be anything at all: unbalanced, ill-formed, or
cut off in the middle of other groups.
-/

namespace IntegerCalculator

/-- The tokens between `n` pairs of parentheses. -/
def enclosed : Nat → List Token → List Token
  | 0, ts => ts
  | n + 1, ts => .openParen :: (enclosed n ts ++ [.closeParen])

theorem Balanced.enclosed {ts : List Token} (h : Balanced ts) (n : Nat) :
    Balanced (enclosed n ts) := by
  induction n with
  | zero => exact h
  | succ n ih => exact .group ih .nil

namespace Reading

/-- **The same reading with more levels below** those that it has set aside. -/
def above (r : Reading) (below : List (List Item)) : Reading :=
  ⟨r.current, r.suspended ++ below⟩

/-- A token that closes nothing below is read the same way. -/
theorem read_above {r : Reading} {t : Token} (h : t = .closeParen → r.suspended ≠ [])
    (below : List (List Item)) :
    (r.above below).read t = (r.read t).map fun s => s.above below := by
  obtain ⟨current, suspended⟩ := r
  cases t with
  | number digits =>
    show (Tree.ofDigits digits).map _ = ((Tree.ofDigits digits).map _).map _
    cases Tree.ofDigits digits <;> rfl
  | operator o => rfl
  | openParen => rfl
  | closeParen =>
    cases suspended with
    | nil => exact absurd rfl (h rfl)
    | cons outer suspended =>
      show (Level.toTree current.reverse).map _ = ((Level.toTree current.reverse).map _).map _
      cases Level.toTree current.reverse <;> rfl

/-- **What a token does to the number of open parentheses.** -/
theorem length_suspended_of_read {r s : Reading} {t : Token} (h : r.read t = .ok s) :
    s.suspended.length + [t].count .closeParen
      = r.suspended.length + [t].count .openParen := by
  obtain ⟨current, suspended⟩ := r
  cases t with
  | number digits =>
    obtain ⟨t, -, rfl⟩ := exists_of_map_eq_ok h
    rfl
  | operator o =>
    cases h
    rfl
  | openParen =>
    cases h
    rfl
  | closeParen =>
    cases suspended with
    | nil => cases h
    | cons outer suspended =>
      obtain ⟨t, -, rfl⟩ := exists_of_map_eq_ok h
      rfl

/-- **Tokens that close nothing below are read the same way**, and leave what
lies below as it was. -/
theorem readAll_above {ts : List Token} {r : Reading}
    (h : ∀ us vs, ts = us ++ vs →
      us.count .closeParen ≤ us.count .openParen + r.suspended.length)
    (below : List (List Item)) :
    (r.above below).readAll ts = (r.readAll ts).map fun s => s.above below := by
  induction ts generalizing r with
  | nil => rfl
  | cons t ts ih =>
    have hclose : t = .closeParen → r.suspended ≠ [] := by
      rintro rfl hnil
      have := h [.closeParen] ts rfl
      rw [hnil] at this
      exact absurd this (by decide)
    rw [readAll_cons, readAll_cons, read_above hclose]
    cases hs : r.read t with
    | error e => rfl
    | ok s =>
      refine ih fun us vs heq => ?_
      have hlength := length_suspended_of_read hs
      have hprefix := h (t :: us) vs (by rw [heq]; rfl)
      rw [← List.singleton_append, List.count_append, List.count_append] at hprefix
      omega

/-- **A group is read as its inside alone**: the tree of the inside becomes an
operand, the error of the inside ends the reading. -/
theorem readAll_enclosed {g : List Token} (h : Balanced g) (r : Reading) :
    r.readAll (.openParen :: (g ++ [.closeParen]))
      = (start.readAll g >>= finish).map fun t => r.add (.operand t) := by
  rw [readAll_cons]
  show (start.above (r.current :: r.suspended)).readAll (g ++ [.closeParen]) = _
  have hprefix : ∀ us vs, g = us ++ vs →
      us.count .closeParen ≤ us.count .openParen + start.suspended.length :=
    fun us vs heq => Nat.le_add_right_of_le (h.2 us vs heq)
  rw [readAll_append, readAll_above hprefix]
  cases hs : start.readAll g with
  | error e => rfl
  | ok s =>
    -- as many parentheses are closed inside as opened
    have hlength := (readAll_eq_ok_iff_tracks.mp hs).count_openParen
    have hcount := h.1
    have hnil : s.suspended = [] := List.length_eq_zero_iff.mp (by omega)
    obtain ⟨current, suspended⟩ := s
    obtain rfl : suspended = [] := hnil
    show (Level.toTree current.reverse).map _ >>= _ = (Level.toTree current.reverse).map _
    cases Level.toTree current.reverse <;> rfl

/-- More pairs of parentheses around the inside make no difference. -/
theorem readAll_start_enclosed {g : List Token} (h : Balanced g) (n : Nat) :
    start.readAll (enclosed n g) >>= finish = start.readAll g >>= finish := by
  induction n with
  | zero => rfl
  | succ n ih =>
    rw [← ih, enclosed, readAll_enclosed (h.enclosed n)]
    cases start.readAll (enclosed n g) >>= finish <;> rfl

end Reading

namespace Tree

/-- **Reading passes through a group** between any tokens. -/
theorem parse_around_group {g : List Token} (h : Balanced g) (a b : List Token) :
    parse (a ++ .openParen :: (g ++ .closeParen :: b))
      = Reading.start.readAll a >>= fun r =>
          (Reading.start.readAll g >>= Reading.finish) >>= fun t =>
            (r.add (.operand t)).readAll b >>= Reading.finish := by
  have hgroup : a ++ .openParen :: (g ++ .closeParen :: b)
      = a ++ ((.openParen :: (g ++ [.closeParen])) ++ b) := by simp
  rw [parse_of_ne_nil (by simp), hgroup, Reading.readAll_append]
  cases Reading.start.readAll a with
  | error e => rfl
  | ok r =>
    show r.readAll _ >>= Reading.finish = _
    rw [Reading.readAll_append, Reading.readAll_enclosed h]
    cases Reading.start.readAll g >>= Reading.finish <;> rfl

/-- Tokens that have a tree are balanced. -/
theorem balanced_of_parse {g : List Token} {t : Tree} (h : parse g = .ok t) : Balanced g := by
  obtain ⟨level, hlevel, -⟩ := parse_eq_ok_iff.mp h
  exact hlevel.balanced

/-- **Groups are compositional**, whatever tokens stand before and after them.

Insides with the same tree can replace each other, in results and in errors
alike. So pairs of parentheses inside a group are redundant, and so is the pair
around a number. The error of an inside is the error of the whole, unless the
reading ends before it gets there. -/
theorem parse_group_compositional (a b : List Token) :
    (∀ g₁ g₂ e, parse g₁ = .ok e → parse g₂ = .ok e →
        parse (a ++ .openParen :: (g₁ ++ .closeParen :: b))
          = parse (a ++ .openParen :: (g₂ ++ .closeParen :: b)))
      ∧ (∀ n g, Balanced g →
        parse (a ++ .openParen :: (enclosed n g ++ .closeParen :: b))
          = parse (a ++ .openParen :: (g ++ .closeParen :: b)))
      ∧ (∀ digits, digits ≠ [] → (∀ c ∈ digits, c.isDigit = true) →
        parse (a ++ .number digits :: b)
          = parse (a ++ .openParen :: ([.number digits] ++ .closeParen :: b)))
      ∧ ∀ g x, g ≠ [] → Balanced g → parse g = .error x →
        (∃ r, Reading.start.readAll a = .ok r) →
          parse (a ++ .openParen :: (g ++ .closeParen :: b)) = .error x := by
  refine ⟨fun g₁ g₂ e h₁ h₂ => ?_, fun n g hg => ?_, fun digits hne hdigits => ?_,
    fun g x hne hg hx ha => ?_⟩
  · have hne {g : List Token} (h : parse g = .ok e) : g ≠ [] := by
      rintro rfl
      cases h
    rw [parse_around_group (balanced_of_parse h₁), parse_around_group (balanced_of_parse h₂),
      ← parse_of_ne_nil (hne h₁), ← parse_of_ne_nil (hne h₂), h₁, h₂]
  · rw [parse_around_group (hg.enclosed n), parse_around_group hg,
      Reading.readAll_start_enclosed hg]
  · have hnumeral := Decimal.isNumeral_iff.mpr ⟨hne, hdigits⟩
    have hnumber : Spells [.number digits] _ := .number hnumeral .nil
    rw [parse_around_group hnumber.balanced, parse_of_ne_nil (by simp),
      Reading.readAll_append, hnumber.readAll]
    cases Reading.start.readAll a with
    | error e => rfl
    | ok r =>
      show r.readAll (.number digits :: b) >>= Reading.finish = _
      rw [Reading.readAll_cons, Reading.read, ofDigits_of_isNumeral hnumeral]
      rfl
  · obtain ⟨r, hr⟩ := ha
    rw [parse_around_group hg, hr, ← parse_of_ne_nil hne, hx]
    rfl

/-- Behind `( -`, which nothing closes, `((7))` may stand for `(7)`, `((1 2))`
for `(1 2)` and `7` for `(7)`, and the error of `(1 2)` comes out whatever the
closing parentheses behind it are worth. -/
theorem parse_group_compositional_unclosed :
    parse [.openParen, .operator .sub, .openParen, .number ['7'], .closeParen]
        = parse [.openParen, .operator .sub, .openParen, .openParen, .number ['7'],
            .closeParen, .closeParen]
      ∧ parse [.openParen, .operator .sub, .openParen, .openParen, .number ['1'],
            .number ['2'], .closeParen, .closeParen]
        = parse [.openParen, .operator .sub, .openParen, .number ['1'], .number ['2'],
            .closeParen]
      ∧ parse [.openParen, .operator .sub, .number ['7']]
        = parse [.openParen, .operator .sub, .openParen, .number ['7'], .closeParen]
      ∧ parse [.openParen, .operator .sub, .openParen, .number ['1'], .number ['2'],
            .closeParen, .closeParen, .closeParen, .closeParen]
        = .error .missingOperator := by
  have hseven : Spells [.number ['7']] _ := .number rfl .nil
  have hgroup : Spells [.openParen, .number ['7'], .closeParen] _ :=
    .group hseven (Level.toTree_operand _) .nil
  have hpair : Spells [.number ['1'], .number ['2']] _ := .number rfl (.number rfl .nil)
  refine ⟨?_, ?_, ?_, ?_⟩
  · exact (parse_group_compositional [.openParen, .operator .sub] []).1 [.number ['7']]
      [.openParen, .number ['7'], .closeParen] _
      (parse_eq_ok_iff.mpr ⟨_, hseven, Level.toTree_operand _⟩)
      (parse_eq_ok_iff.mpr ⟨_, hgroup, Level.toTree_operand _⟩)
  · exact (parse_group_compositional [.openParen, .operator .sub] []).2.1 1
      [.number ['1'], .number ['2']] hpair.balanced
  · exact (parse_group_compositional [.openParen, .operator .sub] []).2.2.1 ['7']
      (by decide) (List.forall_mem_singleton.mpr rfl)
  · exact (parse_group_compositional [.openParen, .operator .sub]
      [.closeParen, .closeParen, .closeParen]).2.2.2 [.number ['1'], .number ['2']]
      .missingOperator (by decide) hpair.balanced (hpair.parse (by decide)) ⟨_, rfl⟩

end Tree

end IntegerCalculator
