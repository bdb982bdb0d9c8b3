import IntegerCalculator.Calculation
import IntegerCalculator.Proofs.Grammar
import IntegerCalculator.Proofs.RoundTrip

/-!
# An explanation entered again

Two of the texts that explain a result can be entered themselves. The line of
the tokens is cut into the same tokens again, because every number in it stands
between spaces and was a numeral before (`tokenize_line`): so it is explained
in the same words. The line of the tree has other tokens – more parentheses,
no leading zeros – but it is read as the same tree. For this the tree must not
have a negative leaf, since the sign of such a leaf would be read as a
subtraction. A tree that was read from tokens has none: what is negative in it
is the value of a difference, never a number that somebody wrote
(`Derives.numbers_nonneg`).
-/

namespace IntegerCalculator

/-- **A sentence of a grammar of tiers has no negative leaf.** -/
theorem Derives.numbers_nonneg {grammar tiers : List (List Operator)} {ts : List Token}
    {t : Tree} (h : Derives grammar tiers ts t) : ∀ n ∈ t.numbers, 0 ≤ n := by
  induction h with
  | number hne hdigits =>
    intro n hn
    obtain rfl := List.mem_singleton.mp hn
    exact Int.natCast_nonneg _
  | group h ih => exact ih
  | next ops h ih => exact ih
  | join ho hl hr ihl ihr =>
    intro n hn
    exact (List.mem_append.mp hn).elim (ihl n) (ihr n)

/-- **A tree that was read is read from its own line.** -/
theorem Tree.parse_tokens_of_parse {ts : List Token} {t : Tree} (h : Tree.parse ts = .ok t) :
    Tree.parse t.tokens = .ok t :=
  Tree.parse_eq_ok_iff.mpr
    ⟨_, spells_tokens (derives_of_parse h).numbers_nonneg, Level.toTree_operand t⟩

/-- **What a text is explained by**: its tokens, and the tree that they are read
as, if that tree has a value. -/
theorem explain_eq_ok_iff {s : Text} {v : Int} {e : Explanation} :
    explain s = .ok (v, e)
      ↔ ∃ t : Tree, Tree.parse (tokenize s) = .ok t ∧ t.evaluate = .ok v
        ∧ e = ⟨Token.line (tokenize s), t.render, t.outline, pipelineNote⟩ := by
  constructor
  · intro h
    obtain ⟨w, hw, heq⟩ := exists_of_map_eq_ok h
    cases hparse : Tree.parse (tokenize s) with
    | error x =>
      rw [workings_of_parse_error hparse] at hw
      cases hw
    | ok t =>
      rw [workings_of_parse hparse] at hw
      obtain ⟨n, hn, rfl⟩ := exists_of_map_eq_ok hw
      cases heq
      exact ⟨t, rfl, hn, rfl⟩
  · rintro ⟨t, ht, hv, rfl⟩
    rw [explain, workings_of_parse ht, hv]
    rfl

/-- The line of the tokens of a text is cut like the text. -/
theorem tokenize_line_tokenize (s : Text) :
    tokenize (Token.line (tokenize s)) = tokenize s :=
  tokenize_line fun _ hd => isNumeral_of_number_mem_tokenize hd

/-- **An explanation can be entered again.**

The line of the tokens has the same result, explained in the same words. The
line of the tree has the same result, explained by the same tree. And whether
or not a text has a result, the line of its tokens gives what the text gives. -/
theorem explain_entered_again (s : Text) :
    (∀ v e, explain s = .ok (v, e) →
        explain e.tokens = .ok (v, e)
          ∧ ∃ e', explain e.expression = .ok (v, e')
            ∧ e'.expression = e.expression ∧ e'.outline = e.outline)
      ∧ calculate (Token.line (tokenize s)) = calculate s := by
  have hworkings := workings_congr (tokenize_line_tokenize s)
  refine ⟨fun v e h => ?_, by rw [calculate, calculate, hworkings]⟩
  obtain ⟨t, ht, hv, rfl⟩ := explain_eq_ok_iff.mp h
  refine ⟨?_, _, explain_eq_ok_iff.mpr ⟨t, ?_, hv, rfl⟩, rfl, rfl⟩
  · show explain (Token.line (tokenize s)) = _
    rw [explain, hworkings]
    exact h
  · rw [Tree.tokenize_render]
    exact Tree.parse_tokens_of_parse ht

/-- The text `(2)-05` has a negative result, and both lines that explain it have
the same. -/
theorem explain_entered_again_negative :
    ∃ e, explain "(2)-05".toList = .ok (-3, e)
      ∧ explain "( 2 ) - 05".toList = .ok (-3, e)
      ∧ ∃ e', explain "(2 - 5)".toList = .ok (-3, e')
        ∧ e'.expression = e.expression ∧ e'.outline = e.outline := by
  let e : Explanation :=
    ⟨"( 2 ) - 05".toList, "(2 - 5)".toList, "-\n  2\n  5".toList, pipelineNote⟩
  have hoption : (explain "(2)-05".toList).toOption = some (-3, e) := by decide +kernel
  have h : explain "(2)-05".toList = .ok (-3, e) := by
    cases hs : explain "(2)-05".toList with
    | error x =>
      rw [hs] at hoption
      cases hoption
    | ok p =>
      rw [hs] at hoption
      exact congrArg Except.ok (Option.some.inj hoption)
  obtain ⟨htokens, htree⟩ := (explain_entered_again "(2)-05".toList).1 (-3) e h
  exact ⟨e, h, htokens, htree⟩

end IntegerCalculator
