import IntegerCalculator.Proofs.Nesting
import IntegerCalculator.Proofs.Tokenizing
import IntegerCalculator.Tree.Rendering

/-!
# Reading back the line of a tree

The line of a tree puts a pair of parentheses around every operator and writes
a leaf as its decimal text. Cut into tokens it gives `Tree.tokens`, where a
negative leaf has become *two* tokens: the minus sign is a subtraction like any
other.

If no leaf is negative, the line of every subtree spells one operand, the
subtree itself, and the tree is read back. A negative leaf spells an operator
without a left operand instead. No level can fold that: the pair of parentheses
around the nearest operator is refused, whatever was read before it and
whatever comes after (`Refuses`), and the operator named is the first one that
a pass finds without an operand. The one pair of tokens that no parenthesis
closes is the line of a lone negative leaf, and there the end of the tokens
plays that part.
-/

namespace IntegerCalculator

/-! ## Tokens that no reading gets through -/

/-- **The tokens lack an operand**: every reading stops on them, always with the
same operator to blame. -/
def Refuses (ts : List Token) : Prop :=
  ∃ o, ∀ r : Reading, r.readAll ts = .error (.missingOperand o)

namespace Refuses

variable {ts us : List Token} {level : Level}

theorem append (h : Refuses ts) (us : List Token) : Refuses (ts ++ us) := by
  obtain ⟨o, h⟩ := h
  refine ⟨o, fun r => ?_⟩
  rw [Reading.readAll_append, h r]
  rfl

theorem openParen (h : Refuses ts) : Refuses (.openParen :: ts) := by
  obtain ⟨o, h⟩ := h
  exact ⟨o, fun r => (Reading.readAll_cons r _ ts).trans (h _)⟩

/-- A spelling in front does not help. -/
theorem of_spells_append (hts : Spells ts level) (h : Refuses us) :
    Refuses (ts ++ us) := by
  obtain ⟨o, h⟩ := h
  refine ⟨o, fun r => ?_⟩
  rw [Reading.readAll_append, hts.readAll]
  exact h _

/-- **A group that lacks an operand is refused where it closes.** -/
theorem of_group {o : Operator} (hts : Spells ts level)
    (h : level.toTree = .error (.missingOperand o)) :
    Refuses (.openParen :: (ts ++ [.closeParen])) := by
  refine ⟨o, fun r => ?_⟩
  rw [Reading.readAll_group hts.readAll, h]
  rfl

theorem parse (h : Refuses ts) : ∃ o, Tree.parse ts = .error (.missingOperand o) := by
  obtain ⟨o, h⟩ := h
  refine ⟨o, ?_⟩
  have hts : ts ≠ [] := by
    rintro rfl
    cases h .start
  rw [Tree.parse_of_ne_nil hts, h]
  rfl

end Refuses

/-! ## The levels of one operator -/

namespace Level

variable {o : Operator} {l r : Tree}

theorem toTree_node :
    toTree [.operand l, .operator o, .operand r] = .ok (.node l o r) := by
  cases o <;> rfl

/-- A sign on the right leaves the operator before it without an operand. -/
theorem toTree_sign_right :
    toTree [.operand l, .operator o, .operator .sub, .operand r]
      = .error (.missingOperand o) := by
  cases o <;> rfl

/-- A sign on the left is a subtraction from nothing. -/
theorem toTree_sign_left :
    toTree [.operator .sub, .operand l, .operator o, .operand r]
      = .error (.missingOperand .sub) := by
  cases o <;> rfl

theorem toTree_sign_both :
    toTree [.operator .sub, .operand l, .operator o, .operator .sub, .operand r]
      = .error (.missingOperand o) := by
  cases o <;> rfl

end Level

namespace Tree

/-! ## The tokens of a line -/

/-- The numbers on the leaves, from left to right. -/
def numbers : Tree → List Int
  | leaf n => [n]
  | node l _ r => l.numbers ++ r.numbers

/-- **The tokens of the line of a tree.** -/
def tokens : Tree → List Token
  | leaf (.ofNat n) => [.number (Decimal.ofNat n)]
  | leaf (.negSucc n) => [.operator .sub, .number (Decimal.ofNat (n + 1))]
  | node l o r =>
    .openParen :: (l.tokens ++ .operator o :: (r.tokens ++ [.closeParen]))

theorem tokenize_parenthesised_append (t : Tree) {s : Text}
    (hs : ∀ c ∈ s.head?, c.isDigit = false) :
    tokenize (t.parenthesised ++ s) = t.tokens ++ tokenize s := by
  induction t generalizing s with
  | leaf n =>
    cases n with
    | ofNat n => exact tokenize_numeral_append (Decimal.isNumeral_ofNat n) hs
    | negSucc n =>
      refine (tokenize_operator_cons .sub (Decimal.ofNat (n + 1) ++ s)).trans ?_
      rw [tokenize_numeral_append (Decimal.isNumeral_ofNat _) hs]
      rfl
  | node l o r hl hr =>
    -- No number of the line touches the next character: a space or `)` follows.
    have hspace : ∀ c ∈ (' ' :: o.symbol :: ' ' :: (r.parenthesised ++ ')' :: s)).head?,
        c.isDigit = false := by
      simp
    have hclose : ∀ c ∈ (')' :: s).head?, c.isDigit = false := by simp
    have hline : (node l o r).parenthesised ++ s
        = '(' :: (l.parenthesised
          ++ ' ' :: o.symbol :: ' ' :: (r.parenthesised ++ ')' :: s)) := by
      simp [parenthesised]
    rw [hline, tokenize_openParen_cons, hl hspace, tokenize_space_cons,
      tokenize_operator_cons, tokenize_space_cons, hr hclose, tokenize_closeParen_cons]
    simp [tokens]

/-- **The line of a tree gives its tokens.** -/
theorem tokenize_render (t : Tree) : tokenize t.render = t.tokens := by
  have h := tokenize_parenthesised_append t (s := []) (by simp)
  rw [render_eq_parenthesised]
  simpa using h

/-! ## What the tokens of a line lead to -/

/-- **Without a negative leaf the line spells the tree.** -/
theorem spells_tokens {t : Tree} (h : ∀ n ∈ t.numbers, 0 ≤ n) :
    Spells t.tokens [.operand t] := by
  induction t with
  | leaf n =>
    cases n with
    | ofNat n =>
      have hn : Spells (leaf (.ofNat n)).tokens _ :=
        .number (Decimal.isNumeral_ofNat n) .nil
      rwa [Decimal.value_ofNat] at hn
    | negSucc n =>
      have hn : 0 ≤ Int.negSucc n := h _ (List.mem_singleton_self _)
      exact absurd hn (by omega)
  | node l o r hl hr =>
    have hl := hl fun n hn => h n (List.mem_append_left _ hn)
    have hr := hr fun n hn => h n (List.mem_append_right _ hn)
    have hin := hl.append (.operator o hr)
    have hgroup := Spells.group hin Level.toTree_node .nil
    simpa [tokens] using hgroup

section

variable {l r : Tree} {o : Operator}

theorem refuses_node_of_left (hl : Refuses l.tokens) : Refuses (node l o r).tokens :=
  (hl.append _).openParen

theorem refuses_node_of_right {a : Level} (hl : Spells l.tokens a)
    (hr : Refuses r.tokens) : Refuses (node l o r).tokens := by
  have hsign : Refuses (.operator o :: (r.tokens ++ [.closeParen])) :=
    Refuses.of_spells_append (.operator o .nil) (hr.append _)
  exact (Refuses.of_spells_append hl hsign).openParen

theorem refuses_node_of_level {a b : Level} {o' : Operator} (hl : Spells l.tokens a)
    (hr : Spells r.tokens b)
    (h : Level.toTree (a ++ .operator o :: b) = .error (.missingOperand o')) :
    Refuses (node l o r).tokens := by
  have hgroup := Refuses.of_group (hl.append (.operator o hr)) h
  simpa [tokens] using hgroup

end

/-- **A negative leaf is the whole line, or the line is refused.** A lone one
spells an operator before an operand. -/
theorem spells_or_refuses_tokens {t : Tree} (h : ∃ n ∈ t.numbers, n < 0) :
    (∃ m, Spells t.tokens [.operator .sub, .operand m]) ∨ Refuses t.tokens := by
  induction t with
  | leaf n =>
    cases n with
    | ofNat n =>
      obtain ⟨m, hm, hneg⟩ := h
      cases List.mem_singleton.mp hm
      exact absurd hneg (by simp)
    | negSucc n =>
      exact .inl ⟨_, .operator .sub (.number (Decimal.isNumeral_ofNat _) .nil)⟩
  | node l o r ihl ihr =>
    right
    by_cases hln : ∃ n ∈ l.numbers, n < 0
    · obtain ⟨m, hl⟩ | hl := ihl hln
      · -- The group begins with a sign, whatever its right side is.
        by_cases hrn : ∃ n ∈ r.numbers, n < 0
        · obtain ⟨m', hr⟩ | hr := ihr hrn
          · exact refuses_node_of_level hl hr Level.toTree_sign_both
          · exact refuses_node_of_right hl hr
        · have hr := spells_tokens (t := r) (by simpa using hrn)
          exact refuses_node_of_level hl hr Level.toTree_sign_left
      · exact refuses_node_of_left hl
    · have hl := spells_tokens (t := l) (by simpa using hln)
      have hrn : ∃ n ∈ r.numbers, n < 0 := by
        obtain ⟨n, hn, hneg⟩ := h
        obtain hn | hn := List.mem_append.mp hn
        · exact absurd ⟨n, hn, hneg⟩ hln
        · exact ⟨n, hn, hneg⟩
      obtain ⟨m, hr⟩ | hr := ihr hrn
      · exact refuses_node_of_level hl hr Level.toTree_sign_right
      · exact refuses_node_of_right hl hr

/-- **A tree is read back from its line if no leaf is negative**, and with a
negative leaf the line lacks an operand: it is never the line of another
tree. -/
theorem parse_tokenize_render (t : Tree) :
    ((∀ n ∈ t.numbers, 0 ≤ n) → parse (tokenize t.render) = .ok t)
      ∧ ((∃ n ∈ t.numbers, n < 0) →
          ∃ o, parse (tokenize t.render) = .error (.missingOperand o)) := by
  rw [tokenize_render]
  constructor
  · intro h
    exact parse_eq_ok_iff.mpr ⟨_, spells_tokens h, Level.toTree_operand t⟩
  · intro h
    obtain ⟨m, hm⟩ | hrefuses := spells_or_refuses_tokens h
    · have hne : t.tokens ≠ [] := fun hnil => by
        rw [hnil] at hm
        cases hm
      exact ⟨.sub, hm.parse hne⟩
    · exact hrefuses.parse

/-- `(3 - 2)` is read back, `(3 - -2)` lacks an operand. -/
theorem parse_tokenize_render_sub :
    parse (tokenize (node (leaf 3) .sub (leaf 2)).render)
        = .ok (node (leaf 3) .sub (leaf 2))
      ∧ ∃ o, parse (tokenize (node (leaf 3) .sub (leaf (-2))).render)
        = .error (.missingOperand o) :=
  ⟨(parse_tokenize_render _).1 (by decide), (parse_tokenize_render _).2 (by decide)⟩

end Tree

end IntegerCalculator
