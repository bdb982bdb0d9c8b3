import IntegerCalculator.Tree.Rendering

/-!
# Trees that look the same are the same

There are two ways to ask whether two trees are the same: to walk both at once,
and to compare the lines they are written on. They never disagree
(`Tree.same_iff_render_eq`).

For the walk this is an equation of Booleans. For the lines it says that a line
has one reading, negative leaves included, although the parser refuses those:
`(3 - -2)` is no sentence of the calculator, and still no other tree is written
so. What makes it true is that a line ends by itself. A pair of parentheses
closes, and a number is over where its digits are; so of two trees in front of
two texts that begin with no digit, neither can reach into the text behind it
(`Tree.parenthesised_append_injective`). The second operand of a node begins
where the line of the first has ended, which is why the induction needs the text
behind.
-/

namespace IntegerCalculator.Tree

/-- No number begins with a parenthesis. -/
theorem ofInt_append_ne_openParen (n : Int) (s t : Text) : Decimal.ofInt n ++ s ≠ '(' :: t := by
  cases n with
  | ofNat n => exact Decimal.ofNat_append_ne_cons (by decide) n s t
  | negSucc n => exact fun h => absurd (List.cons.inj h).1 (by decide)

/-- **A line has one reading**: the same text begins with the line of one tree
only, if no digit follows it. -/
theorem parenthesised_append_injective {a b : Tree} {s t : Text}
    (hs : ∀ c ∈ s.head?, c.isDigit = false) (ht : ∀ c ∈ t.head?, c.isDigit = false)
    (h : a.parenthesised ++ s = b.parenthesised ++ t) : a = b ∧ s = t := by
  induction a generalizing b s t with
  | leaf m =>
    cases b with
    | leaf n =>
      obtain ⟨rfl, hst⟩ := Decimal.ofInt_append_injective hs ht h
      exact ⟨rfl, hst⟩
    | node l op r => exact absurd h (ofInt_append_ne_openParen m s _)
  | node l op r ihl ihr =>
    cases b with
    | leaf n => exact absurd h.symm (ofInt_append_ne_openParen n t _)
    | node l' op' r' =>
      -- behind the left operand a space follows, behind the right one a parenthesis
      have hspace (u : Text) : ∀ c ∈ (' ' :: u).head?, c.isDigit = false := by simp
      have hclose (u : Text) : ∀ c ∈ (')' :: u).head?, c.isDigit = false := by simp
      have hline : l.parenthesised ++ ' ' :: op.symbol :: ' ' :: (r.parenthesised ++ ')' :: s)
          = l'.parenthesised ++ ' ' :: op'.symbol :: ' ' :: (r'.parenthesised ++ ')' :: t) := by
        simpa [parenthesised] using h
      obtain ⟨rfl, hbehind⟩ := ihl (hspace _) (hspace _) hline
      obtain ⟨hsymbol, hright⟩ := List.cons.inj (List.cons.inj hbehind).2
      obtain ⟨rfl, hend⟩ := ihr (hclose s) (hclose t) (List.cons.inj hright).2
      rw [Operator.symbol_injective hsymbol]
      exact ⟨rfl, (List.cons.inj hend).2⟩

/-- Trees with the same line are the same. -/
theorem render_injective {a b : Tree} (h : a.render = b.render) : a = b := by
  rw [render_eq_parenthesised, render_eq_parenthesised] at h
  have hline : a.parenthesised ++ [] = b.parenthesised ++ [] := by rw [h]
  exact (parenthesised_append_injective (by simp) (by simp) hline).1

/-- **Two trees are the same if and only if the comparison says so, and if and only
if they are written on the same line.** That line is the one of the recursion,
in which a leaf is its number in decimal. -/
theorem same_iff_render_eq :
    (∀ a b : Tree, (a.same b = true ↔ a = b) ∧ (a = b ↔ a.render = b.render))
      ∧ (∀ t : Tree, t.render = t.parenthesised)
      ∧ ∀ n : Int, (leaf n).parenthesised = (toString n).toList := by
  refine ⟨fun a b => ⟨same_iff_eq, ?_, render_injective⟩, render_eq_parenthesised,
    Decimal.ofInt_eq_toString⟩
  rintro rfl
  rfl

/-- The comparison tells `-5` from `(0 - 5)`. -/
example : (leaf (-5)).same (node (leaf 0) .sub (leaf 5)) = false := by
  decide +kernel

end IntegerCalculator.Tree
