import IntegerCalculator.Tree.Outline
import IntegerCalculator.Proofs.Grammar

/-!
# The outline is a cut listing

`Tree.listing` says what a full outline would be, by recursion on the tree: the
line of the root, then the listing of the left tree, then that of the right
one, each two spaces further in. The walk that makes the outline keeps its own
stack and goes on after the last line it shows, only to count what it hides. It
shows the first lines of the listing (`Tree.outlineLines_eq`), and hides one
node for each line it leaves out, since a listing has a line for every node
(`Tree.length_listing`).

How many nodes that is can be told from the tokens when the tree was read from
some: every number and every operator is a node, and a parenthesis is none
(`Derives.size_eq`).
-/

namespace IntegerCalculator

namespace Tree

/-! ## The listing and the walk -/

/-- **The lines of a tree in preorder**, the root `depth` levels down. -/
def listing (depth : Nat) : Tree → List Text
  | leaf n => [List.replicate (2 * depth) ' ' ++ (toString n).toList]
  | node l op r =>
    (List.replicate (2 * depth) ' ' ++ [op.symbol])
      :: (l.listing (depth + 1) ++ r.listing (depth + 1))

/-- The entries of the walk are written as the lines of the listing. -/
theorem map_line_preorder (t : Tree) (d : Nat) :
    (t.preorder d).map Entry.line = t.listing d := by
  induction t generalizing d with
  | leaf n => simp [preorder, listing, Entry.line, Label.text, Decimal.ofInt_eq_toString]
  | node l op r hl hr =>
    simp [preorder, listing, Entry.line, Label.text, hl, hr]

/-- **A listing has one line for each node.** -/
@[simp] theorem length_listing (t : Tree) (d : Nat) : (t.listing d).length = t.size := by
  rw [← map_line_preorder, List.length_map, length_preorder]

/-- The line that counts the hidden nodes, spelled out. -/
theorem hiddenLine_eq (n : Nat) :
    hiddenLine n = "… (".toList ++ (toString n).toList ++ " noeuds non affichés)".toList := by
  rw [hiddenLine, Decimal.ofNat_eq, Nat.toString_eq_repr, Nat.toList_repr]
  rfl

/-- **The walk shows the first lines of the listing**, and counts the others. -/
theorem outlineLines_eq (t : Tree) :
    t.outlineLines = (t.listing 0).take lineLimit
      ++ if lineLimit < t.size then [hiddenLine (t.size - lineLimit)] else [] := by
  have hhidden : t.size - lineLimit = 0 ↔ ¬ lineLimit < t.size := by omega
  simp only [outlineLines, entries_eq_preorder, List.map_take, map_line_preorder,
    List.length_drop, length_preorder, hhidden, ite_not]

end Tree

/-! ## The nodes of a tree that was read -/

/-- The token is a parenthesis. -/
def Token.isParenthesis : Token → Bool
  | .openParen | .closeParen => true
  | .number _ | .operator _ => false

/-- **A sentence has a token for each node of its tree**, parentheses apart. -/
theorem Derives.size_eq {grammar tiers : List (List Operator)} {ts : List Token} {t : Tree}
    (h : Derives grammar tiers ts t) : t.size = ts.countP fun tok => !tok.isParenthesis := by
  induction h with
  | number _ _ => rfl
  | group _ ih => simp [ih, Token.isParenthesis]
  | next _ _ ih => exact ih
  | join _ _ _ ihl ihr =>
    rw [Tree.size, ihl, ihr, List.countP_append, List.countP_cons_of_pos rfl]
    omega

namespace Tree

/-- **The outline is the listing, cut after 200 lines**, with a last line that
counts the nodes it does not show if there are any. If the tree was read from
tokens, it has as many nodes as there are numbers and operators among them. -/
theorem outline_eq_listing (t : Tree) :
    t.outline = Text.lines ((t.listing 0).take (min t.size 200)
        ++ if 200 < t.size then
            ["… (".toList ++ (toString (t.size - 200)).toList
              ++ " noeuds non affichés)".toList]
          else [])
      ∧ ∀ ts, Tree.parse ts = .ok t → t.size = ts.countP fun tok => !tok.isParenthesis := by
  refine ⟨?_, fun ts h => (derives_of_parse h).size_eq⟩
  have htake : (t.listing 0).take (min t.size 200) = (t.listing 0).take lineLimit := by
    rw [List.take_eq_take_iff, length_listing]
    show min (min t.size 200) t.size = min 200 t.size
    omega
  rw [outline, outlineLines_eq, htake, hiddenLine_eq]
  rfl

/-- The sum of 101 ones has 201 nodes, and its outline hides the last of them. -/
theorem outline_eq_listing_sum :
    ∃ t, Tree.parse (.number ['1']
          :: (List.replicate 100 [Token.operator .add, .number ['1']]).flatten) = .ok t
      ∧ t.size = 201
      ∧ t.outline = Text.lines ((t.listing 0).take 200
        ++ ["… (1 noeuds non affichés)".toList]) := by
  let ts : List Token :=
    .number ['1'] :: (List.replicate 100 [Token.operator .add, .number ['1']]).flatten
  have hread : (Tree.parse ts).isOk = true := by decide +kernel
  cases h : Tree.parse ts with
  | error e =>
    rw [h] at hread
    cases hread
  | ok t =>
    obtain ⟨houtline, hsize⟩ := outline_eq_listing t
    have hcount : t.size = 201 := (hsize ts h).trans (by decide +kernel)
    have hline : "… (".toList ++ (toString (201 - 200)).toList ++ " noeuds non affichés)".toList
        = "… (1 noeuds non affichés)".toList := by decide +kernel
    rw [hcount, if_pos (by decide), hline] at houtline
    exact ⟨t, rfl, hcount, houtline⟩

end Tree

end IntegerCalculator
