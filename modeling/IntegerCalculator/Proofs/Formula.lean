import IntegerCalculator.Calculation
import IntegerCalculator.Proofs.Nesting
import IntegerCalculator.Proofs.Tokenizing

/-!
# Formulas

A **formula** is a chain whose operands are numerals or formulas between
parentheses, to any depth. It stands for the tokens it is written with
(`Formula.tokens`) and for the text that puts these tokens one behind the other
with nothing between them (`Formula.text`). Any text that is cut into the same
tokens says the same.

Nothing here is a tree: an operand's `outcome` is the number it writes, or what
the calculator answers to the text between its parentheses. What the tokens of
a formula spell is a chain of trees with these outcomes as their values
(`Formula.exists_spells`).
-/

namespace IntegerCalculator

/-- **An operand as it is written**: a run of digits, or a formula between
parentheses. -/
inductive Operand where
  | number (digits : Text) (isNumeral : Decimal.isNumeral digits = true)
  | group (inner : Chain Operand)

/-- **A formula**: operands with operators between them. -/
abbrev Formula := Chain Operand

mutual

/-- The tokens of an operand. -/
def Operand.tokens : Operand → List Token
  | .number digits _ => [.number digits]
  | .group ⟨x, rest⟩ => .openParen :: (x.tokens ++ linkTokens rest ++ [.closeParen])

/-- The tokens of operators, each with the operand behind it. -/
def linkTokens : List (Operator × Operand) → List Token
  | [] => []
  | (o, x) :: rest => .operator o :: (x.tokens ++ linkTokens rest)

end

namespace Formula

/-- **The tokens of a formula.** -/
def tokens (f : Formula) : List Token := f.first.tokens ++ linkTokens f.rest

/-- **The text of a formula**: its tokens one behind the other. -/
def text (f : Formula) : Text := f.tokens.flatMap Token.text

end Formula

namespace Operand

theorem tokens_group (f : Formula) :
    (group f).tokens = .openParen :: (f.tokens ++ [.closeParen]) := by
  obtain ⟨x, rest⟩ := f
  rfl

/-- **What an operand is worth**: the number it writes in base ten, or whatever
the calculator answers to the text of the group. -/
def outcome : Operand → Except CalcError Int
  | number digits _ => .ok (Nat.ofDigitChars 10 digits 0)
  | group f => calculate (Formula.text f)

end Operand

/-! ## The text of a formula -/

/-- An operator behind the text keeps a digit away from it. -/
theorem isDigit_head?_linkTokens {t : Text} (ht : ∀ c ∈ t.head?, c.isDigit = false)
    (rest : List (Operator × Operand)) :
    ∀ c ∈ ((linkTokens rest).flatMap Token.text ++ t).head?, c.isDigit = false := by
  cases rest with
  | nil => exact ht
  | cons p rest =>
    obtain ⟨o, x⟩ := p
    intro c hc
    obtain rfl : o.symbol = c := Option.some.inj hc
    cases o <;> rfl

mutual

/-- The text of an operand is cut into its tokens. -/
theorem Operand.tokenize_append (x : Operand) {t : Text}
    (ht : ∀ c ∈ t.head?, c.isDigit = false) :
    tokenize (x.tokens.flatMap Token.text ++ t) = x.tokens ++ tokenize t := by
  match x with
  | .number digits hd =>
    show tokenize (digits ++ [] ++ t) = .number digits :: tokenize t
    rw [List.append_nil, tokenize_numeral_append hd ht]
  | .group ⟨x, rest⟩ =>
    have hclose : ∀ c ∈ (')' :: t).head?, c.isDigit = false := by
      intro c hc
      obtain rfl : ')' = c := Option.some.inj hc
      rfl
    have hrest := x.tokenize_append (isDigit_head?_linkTokens hclose rest)
    rw [tokenize_linkTokens_append rest hclose, tokenize_closeParen_cons] at hrest
    rw [Operand.tokens]
    simpa [Token.text] using hrest

/-- So is the text of operators with their operands. -/
theorem tokenize_linkTokens_append (rest : List (Operator × Operand)) {t : Text}
    (ht : ∀ c ∈ t.head?, c.isDigit = false) :
    tokenize ((linkTokens rest).flatMap Token.text ++ t) = linkTokens rest ++ tokenize t := by
  match rest with
  | [] => rfl
  | (o, x) :: rest =>
    have hrest := x.tokenize_append (isDigit_head?_linkTokens ht rest)
    rw [tokenize_linkTokens_append rest ht] at hrest
    rw [linkTokens]
    simpa [Token.text] using hrest

end

/-- **The text of a formula is cut into its tokens.** -/
theorem Formula.tokenize_text (f : Formula) : tokenize f.text = f.tokens := by
  have hnil : ∀ c ∈ ([] : Text).head?, c.isDigit = false := by simp
  have hrest := f.first.tokenize_append (isDigit_head?_linkTokens hnil f.rest)
  rw [tokenize_linkTokens_append f.rest hnil] at hrest
  simpa [Formula.text, Formula.tokens] using hrest

/-! ## What the tokens of a formula spell -/

/-- Tokens that spell a chain are calculated by the tree of the chain. -/
theorem calculate_of_spells {t : Text} {level : Level} {tree : Tree}
    (ht : Spells (tokenize t) level) (htree : level.toTree = .ok tree) :
    calculate t = tree.value := by
  rw [calculate_of_parse (Tree.parse_eq_ok_iff.mpr ⟨level, ht, htree⟩), tree.evaluate_eq_value]

mutual

/-- An operand spells one operand, with its outcome for a value. -/
theorem Operand.exists_spells (x : Operand) :
    ∃ t : Tree, Spells x.tokens [.operand t] ∧ t.value = x.outcome := by
  match x with
  | .number digits hd =>
    refine ⟨_, .number hd .nil, ?_⟩
    rw [Decimal.value_eq]
    rfl
  | .group ⟨x, rest⟩ =>
    obtain ⟨t, ht, -⟩ := x.exists_spells
    obtain ⟨links, hlinks, -⟩ := exists_spells_linkTokens rest
    -- the value of the tree is by definition what the text of the group calculates
    have hspells : Spells (Formula.tokens ⟨x, rest⟩) (Chain.items ⟨t, links⟩) :=
      ht.append hlinks
    obtain ⟨u, hu⟩ := Level.exists_toTree_items ⟨t, links⟩
    refine ⟨u, ?_, ?_⟩
    · rw [Operand.tokens_group]
      exact .group hspells hu .nil
    · rw [← Formula.tokenize_text] at hspells
      exact (calculate_of_spells hspells hu).symm

/-- Operators with their operands spell operators with operands of the same
outcomes. -/
theorem exists_spells_linkTokens (rest : List (Operator × Operand)) :
    ∃ links : List (Operator × Tree),
      Spells (linkTokens rest) (links.flatMap Chain.linkItems)
        ∧ (links.map fun p => (p.1, p.2.value)) = rest.map fun p => (p.1, p.2.outcome) := by
  match rest with
  | [] => exact ⟨[], .nil, rfl⟩
  | (o, x) :: rest =>
    obtain ⟨t, ht, hvalue⟩ := x.exists_spells
    obtain ⟨links, hlinks, hvalues⟩ := exists_spells_linkTokens rest
    refine ⟨(o, t) :: links, .operator o (ht.append hlinks), ?_⟩
    rw [List.map_cons, List.map_cons, hvalue, hvalues]

end

/-- **The tokens of a formula spell a chain of trees**, whose values are the
outcomes of the operands. -/
theorem Formula.exists_spells (f : Formula) :
    ∃ c : Chain Tree, Spells f.tokens c.items
      ∧ c.map Tree.value = f.map Operand.outcome := by
  obtain ⟨t, ht, hvalue⟩ := f.first.exists_spells
  obtain ⟨links, hlinks, hvalues⟩ := exists_spells_linkTokens f.rest
  refine ⟨⟨t, links⟩, ht.append hlinks, ?_⟩
  rw [Chain.map, Chain.map, hvalue, hvalues]

end IntegerCalculator
