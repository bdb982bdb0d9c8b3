import IntegerCalculator.Proofs.Nesting

/-!
# The grammar of the calculator

A **grammar of tiers** reads tokens with one nonterminal for each tier of
operators, each leaning on the one below, and a last one for what stands alone:
a number, or anything between parentheses. Under the tiers of the passes these
are four nonterminals and the last,

* `S → A | S - A`
* `A → D | A + D`
* `D → M | D / M`
* `M → F | M * F`
* `F → number | ( S )`

and `Derives passTiers passTiers` is derivation from `S`. A number derives a
leaf with its decimal value, a binary production a node, and parentheses leave
no trace.

The passes never look at this grammar. `Tree.parse_eq_ok_iff_derives` says that
they accept its sentences, refuse everything else, and build its trees.
-/

namespace IntegerCalculator

/-- **What tokens derive in a grammar of tiers**, from the nonterminal that
reads the given tiers of the grammar. -/
inductive Derives (grammar : List (List Operator)) :
    List (List Operator) → List Token → Tree → Prop
  | number {digits : Text} :
      digits ≠ [] → (∀ c ∈ digits, c.isDigit = true) →
        Derives grammar [] [.number digits] (.leaf (Nat.ofDigitChars 10 digits 0))
  | group {ts : List Token} {t : Tree} :
      Derives grammar grammar ts t →
        Derives grammar [] (.openParen :: (ts ++ [.closeParen])) t
  | next (ops : List Operator) {tiers : List (List Operator)} {ts : List Token}
      {t : Tree} : Derives grammar tiers ts t → Derives grammar (ops :: tiers) ts t
  | join {ops : List Operator} {tiers : List (List Operator)} {ts us : List Token}
      {l r : Tree} {o : Operator} :
      o ∈ ops → Derives grammar (ops :: tiers) ts l → Derives grammar tiers us r →
        Derives grammar (ops :: tiers) (ts ++ .operator o :: us) (.node l o r)

namespace Derives

/-- **A sentence of the grammar spells a chain**, and the chain has the derived
tree under the same tiers. -/
theorem exists_chain {tiers : List (List Operator)} {ts : List Token} {t : Tree}
    (h : Derives passTiers tiers ts t) :
    ∃ c, Spells ts c.items ∧ Tiered tiers c t := by
  induction h with
  | @number digits hne hdigits =>
    have hd : Decimal.isNumeral digits = true := Decimal.isNumeral_iff.mpr ⟨hne, hdigits⟩
    rw [← Decimal.value_eq]
    exact ⟨.single _, .number hd .nil, .operand _⟩
  | group h ih =>
    obtain ⟨c, hts, hc⟩ := ih
    exact ⟨.single _, .group hts (Level.toTree_items_eq_ok_iff.mpr hc) .nil, .operand _⟩
  | next ops h ih =>
    obtain ⟨c, hts, hc⟩ := ih
    exact ⟨c, hts, .next ops hc⟩
  | @join ops tiers ts us l r o ho hl hr ihl ihr =>
    obtain ⟨c, hts, hc⟩ := ihl
    obtain ⟨d, hus, hd⟩ := ihr
    refine ⟨c.join o d, ?_, .join ho hc hd⟩
    rw [Chain.items_join]
    exact hts.append (.operator o hus)

/-- **Tokens that spell a chain are a sentence of the grammar.**

The induction on the tiers cuts the tokens where the chain is cut. It ends at
one operand, and there a group starts over from the loosest tier with fewer
tokens; `n` bounds their number. -/
theorem of_spells (n : Nat) {tiers : List (List Operator)} {ts : List Token}
    {c : Chain Tree} {t : Tree} (hn : ts.length < n) (hts : Spells ts c.items)
    (hc : Tiered tiers c t) : Derives passTiers tiers ts t := by
  induction n generalizing tiers ts c t with
  | zero => exact absurd hn (Nat.not_lt_zero _)
  | succ n ih =>
    induction hc generalizing ts with
    | operand t =>
      cases hts with
      | number hd hnil =>
        cases hnil
        rw [Decimal.value_eq]
        obtain ⟨hne, hdigits⟩ := Decimal.isNumeral_iff.mp hd
        exact .number hne hdigits
      | @group inner _ g _ _ hg ht hnil =>
        cases hnil
        obtain ⟨c, rfl, hc⟩ := Level.toTree_eq_ok_iff.mp ht
        have hlen : inner.length < n := by
          simp only [List.length_cons, List.length_append] at hn
          omega
        exact .group (ih hlen hg hc)
    | next ops hc ihc => exact .next ops (ihc hn hts)
    | join ho hl hr ihl ihr =>
      rw [Chain.items_join] at hts
      obtain ⟨us, vs, rfl, hus, hvs⟩ := hts.exists_of_append
      cases hvs with
      | operator o hvs =>
        rw [List.length_append, List.length_cons] at hn
        exact .join ho (ihl (by omega) hus) (ihr (by omega) hvs)

end Derives

namespace Tree

/-- Every sentence of the grammar is read as the tree it derives. -/
theorem parse_of_derives {ts : List Token} {t : Tree}
    (h : Derives passTiers passTiers ts t) : Tree.parse ts = .ok t := by
  obtain ⟨c, hts, hc⟩ := h.exists_chain
  exact Tree.parse_eq_ok_iff.mpr ⟨c.items, hts, Level.toTree_items_eq_ok_iff.mpr hc⟩

/-- What is read is a sentence of the grammar. -/
theorem derives_of_parse {ts : List Token} {t : Tree} (h : Tree.parse ts = .ok t) :
    Derives passTiers passTiers ts t := by
  obtain ⟨level, hts, ht⟩ := Tree.parse_eq_ok_iff.mp h
  obtain ⟨c, rfl, hc⟩ := Level.toTree_eq_ok_iff.mp ht
  exact .of_spells (ts.length + 1) (Nat.lt_succ_self _) hts hc

/-- **The passes and the stack of levels read exactly the four-tier grammar**:
a list of tokens has a tree if and only if the grammar derives that tree from
it. -/
theorem parse_eq_ok_iff_derives (ts : List Token) (t : Tree) :
    Tree.parse ts = .ok t ↔ Derives passTiers passTiers ts t :=
  ⟨derives_of_parse, parse_of_derives⟩

end Tree

end IntegerCalculator
