import IntegerCalculator.Level.Folds
import IntegerCalculator.Proofs.Folding

/-!
# How many folds a level takes, and how it fails

Every fold uses up one operator. A pass leaves as many operators on the level as
it has not folded (`length_passFoldsFrom`), and a level that has a tree ends
without any: it took as many folds as it had operators
(`length_folds_of_toTree`).

A level that has no tree says so with an error of its own: an operand or an
operator is missing, or there is nothing at all (`isOfLevel_of_toTree`). It
never blames parentheses, numbers or divisors.
-/

namespace IntegerCalculator

/-- Whether an item is an operator. -/
def Item.isOperator : Item → Bool
  | .operand _ => false
  | .operator _ => true

@[simp] theorem Item.countP_operand_cons (t : Tree) (level : Level) :
    List.countP isOperator (.operand t :: level) = level.countP isOperator :=
  List.countP_cons_of_neg (by simp [isOperator])

@[simp] theorem Item.countP_operator_cons (o : Operator) (level : Level) :
    List.countP isOperator (.operator o :: level) = level.countP isOperator + 1 :=
  List.countP_cons_of_pos rfl

/-- Whether an error is one of the passes over a level. -/
def CalcError.isOfLevel : CalcError → Bool
  | .missingOperand _ => true
  | .emptyGroup => true
  | .missingOperator => true
  | _ => false

namespace Level

/-- Whether the last item put out is an operand. -/
def ready : List Item → Bool
  | .operand _ :: _ => true
  | _ => false

/-- **One pass accounts for every operator**: it is folded or left on the
level. -/
theorem length_passFoldsFrom {op : Operator} {out : List Item} {rest level : Level}
    (h : passFrom op out rest = .ok level) (done : List Fold) :
    (passFoldsFrom op done out.length (ready out) rest).length + level.countP Item.isOperator
      = done.length + (out.countP Item.isOperator + rest.countP Item.isOperator) := by
  fun_induction passFrom op out rest generalizing done with
  | case1 out =>
    cases h
    simp [passFoldsFrom]
  | case2 out t rest ih =>
    have := ih h done
    rw [passFoldsFrom_operand]
    simpa [ready] using this
  | case3 l out r rest ih =>
    have := ih h (⟨op, out.length⟩ :: done)
    rw [List.length_cons, ready] at this
    rw [List.length_cons, ready, passFoldsFrom_fold]
    simp only [List.length_cons, Item.countP_operand_cons, Item.countP_operator_cons] at this ⊢
    omega
  | case4 => cases h
  | case5 out o rest ho ih =>
    have := ih h done
    rw [passFoldsFrom_operator_of_ne ho]
    simp only [ready, List.length_cons, Item.countP_operator_cons] at this ⊢
    omega

/-- The folds of the passes are as many as the operators of the level. -/
theorem length_foldsOfPasses {ops : List Operator} {level : Level} {t : Tree}
    (h : foldPasses ops level = .ok t) :
    (foldsOfPasses ops level).length = level.countP Item.isOperator := by
  induction ops generalizing level with
  | nil =>
    obtain rfl := sole_eq_ok_iff.mp h
    rfl
  | cons op ops ih =>
    rw [foldPasses_cons] at h
    obtain ⟨level', hpass, h⟩ := exists_of_bind_eq_ok h
    have hcount := length_passFoldsFrom hpass []
    have hrest := ih h
    rw [foldsOfPasses, hpass, List.length_append]
    simp only [passFolds, ready, List.length_nil, List.countP_nil] at hcount ⊢
    omega

/-- **A level that has a tree took one fold for each operator.** -/
theorem length_folds_of_toTree {level : Level} {t : Tree} (h : level.toTree = .ok t) :
    level.folds.length = level.countP Item.isOperator :=
  length_foldsOfPasses h

/-! ## The errors of a level -/

/-- **A pass fails only because its operator lacks an operand.** -/
theorem eq_missingOperand_of_passFrom {op : Operator} {out : List Item} {rest : Level}
    {e : CalcError} (h : passFrom op out rest = .error e) : e = .missingOperand op := by
  fun_induction passFrom op out rest with
  | case1 => cases h
  | case2 out t rest ih => exact ih h
  | case3 l out r rest ih => exact ih h
  | case4 =>
    cases h
    rfl
  | case5 out o rest ho ih => exact ih h

/-- What the passes leave is not one operand because operands or operators
lack. -/
theorem isOfLevel_of_sole {level : Level} {e : CalcError} (h : level.sole = .error e) :
    e.isOfLevel = true := by
  unfold sole at h
  split at h
  · cases h
  · cases h
    rfl
  · cases h
    rfl

theorem isOfLevel_of_foldPasses {ops : List Operator} {level : Level} {e : CalcError}
    (h : foldPasses ops level = .error e) : e.isOfLevel = true := by
  induction ops generalizing level with
  | nil => exact isOfLevel_of_sole h
  | cons op ops ih =>
    rw [foldPasses_cons] at h
    obtain hpass | ⟨level', -, h⟩ := eq_error_or_of_bind_eq_error h
    · rw [eq_missingOperand_of_passFrom hpass]
      rfl
    · exact ih h

/-- **What is wrong with a level is an operand or an operator.** -/
theorem isOfLevel_of_toTree {level : Level} {e : CalcError} (h : level.toTree = .error e) :
    e.isOfLevel = true :=
  isOfLevel_of_foldPasses h

end Level

end IntegerCalculator
