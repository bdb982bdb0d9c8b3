import IntegerCalculator.Reading
import IntegerCalculator.Tree.Outline
import IntegerCalculator.Tree.Rendering
import IntegerCalculator.Tree.Value

/-!
# Calculating a text

A calculation goes from the text to its tokens, from the tokens to a tree and
from the tree to an integer; `Workings` keeps all three. `calculate` answers
the integer. `explain` answers it with an **explanation**: the tokens, the tree
on one line, its outline, and a note on the stages, as the window shows them.
-/

namespace IntegerCalculator

/-- What a calculation went through. -/
structure Workings where
  tokens : List Token
  tree : Tree
  value : Int

/-- **The explanation of a result**, text by text. The empty one stands for
having nothing to explain. -/
structure Explanation where
  tokens : Text := []
  expression : Text := []
  outline : Text := []
  note : Text := []
  deriving DecidableEq

/-- The note on the stages of every calculation. -/
def pipelineNote : Text :=
  "Pipeline: jetons → passes (* puis / puis + puis -) → arbre → réduction.".toList

/-- **The workings of a text.** A fault of reading comes before any fault of
arithmetic. -/
def workings (t : Text) : Except CalcError Workings := do
  let tokens := tokenize t
  let tree ← Tree.parse tokens
  let value ← tree.evaluate
  return { tokens, tree, value }

/-- The explanation of the workings. -/
def Workings.explanation (w : Workings) : Explanation where
  tokens := Token.line w.tokens
  expression := w.tree.render
  outline := w.tree.outline
  note := pipelineNote

/-- **The value of a text.** -/
def calculate (t : Text) : Except CalcError Int :=
  (workings t).map Workings.value

/-- **The value of a text with its explanation.** -/
def explain (t : Text) : Except CalcError (Int × Explanation) :=
  (workings t).map fun w => (w.value, w.explanation)

/-- The explanation comes with the value of the text. -/
theorem map_fst_explain (t : Text) : (explain t).map Prod.fst = calculate t := by
  unfold explain calculate
  cases workings t <;> rfl

section

variable {s : Text} {t : Tree} {e : CalcError}

/-- **What is read as a tree is reduced next.** -/
theorem workings_of_parse (h : Tree.parse (tokenize s) = .ok t) :
    workings s = t.evaluate.map fun v => ⟨tokenize s, t, v⟩ := by
  show (Tree.parse (tokenize s) >>= fun tree => tree.evaluate >>= fun v =>
    pure (⟨tokenize s, tree, v⟩ : Workings)) = _
  rw [h]
  show (t.evaluate >>= fun v => pure (⟨tokenize s, t, v⟩ : Workings)) = _
  cases t.evaluate <;> rfl

/-- **An error of reading is the last stage.** -/
theorem workings_of_parse_error (h : Tree.parse (tokenize s) = .error e) :
    workings s = .error e := by
  show (Tree.parse (tokenize s) >>= fun tree => tree.evaluate >>= fun v =>
    pure (⟨tokenize s, tree, v⟩ : Workings)) = _
  rw [h]
  rfl

theorem calculate_of_parse (h : Tree.parse (tokenize s) = .ok t) :
    calculate s = t.evaluate := by
  rw [calculate, workings_of_parse h]
  cases t.evaluate <;> rfl

theorem calculate_of_parse_error (h : Tree.parse (tokenize s) = .error e) :
    calculate s = .error e := by
  rw [calculate, workings_of_parse_error h]
  rfl

end

/-- **Texts with the same tokens have the same workings.** -/
theorem workings_congr {s t : Text} (h : tokenize s = tokenize t) :
    workings s = workings t := by
  simp [workings, h]

end IntegerCalculator
