import Mathlib.Data.List.TakeWhile
import IntegerCalculator.Proofs.Verdict

/-!
# In which order a level is folded, and where

The folds of a level come pass by pass, and within a pass from left to right: so
every operator has one, unless some operator lacks an operand. Then the first
such operator in the order of the passes has folds up to the first place where
it lacks one, and the operators after it have none (`map_signed_folds`).

The position of a fold is counted in what its pass has put out so far, where
earlier folds have made three items into one. It can still be told from the
level as it was written. To the left of a place every operand counts one, every
operator that is still standing counts one, and every operator that is folded by
then takes one away, since it has used up an operand (`balance`). No pass
changes the balance of a place of a later operator (`Expands.balance_eq`), and
in a pass it is the number of items put out.
-/

namespace IntegerCalculator

/-- Whether an item is an operator whose pass comes after that of `o`. -/
def Item.isAfter (o : Operator) : Item → Bool
  | .operand _ => false
  | .operator q => o.passRank < q.passRank

/-- Whether an item is an operator whose pass is that of `o` or comes before
it. -/
def Item.isNotAfter (o : Operator) : Item → Bool
  | .operand _ => false
  | .operator q => q.passRank ≤ o.passRank

/-- A fold, its position as an integer. -/
def Fold.signed (f : Fold) : Operator × Int := (f.op, f.position)

namespace Level

/-- **What is left of the items when the pass of `o` comes to their end**: every
operand and every later operator, less an operand for each other operator. -/
def balance (o : Operator) (level : Level) : Int :=
  level.countP Item.isOperand + level.countP (Item.isAfter o)
    - level.countP (Item.isNotAfter o)

/-- **The fold of an operator at a place**: the node comes to stand behind what
is left of the items before the place, in the stead of the last of them. -/
def Place.fold (o : Operator) (p : Place) : Operator × Int := (o, balance o p.before - 1)

/-- **The folds of the given passes**, told from the level as it is before them.
Each pass folds its operator up to the first place that is not supplied, and if
there is one, it is the last pass. -/
def dueFolds : List Operator → Level → List (Operator × Int)
  | [], _ => []
  | o :: ops, level =>
    ((level.places o).takeWhile Place.isSupplied).map (Place.fold o)
      ++ if level.lacks o then [] else dueFolds ops level

section

variable (o : Operator)

theorem balance_append (l m : Level) : balance o (l ++ m) = balance o l + balance o m := by
  simp only [balance, List.countP_append]
  omega

theorem balance_cons (i : Item) (l : Level) : balance o (i :: l) = balance o [i] + balance o l :=
  balance_append o [i] l

@[simp] theorem balance_operand (t : Tree) : balance o [.operand t] = 1 := rfl

theorem balance_operator_of_le {o q : Operator} (h : q.passRank ≤ o.passRank) :
    balance o [.operator q] = -1 := by
  simp [balance, Item.isOperand, Item.isAfter, Item.isNotAfter, h]

theorem balance_operator_of_lt {o q : Operator} (h : o.passRank < q.passRank) :
    balance o [.operator q] = 1 := by
  simp [balance, Item.isOperand, Item.isAfter, Item.isNotAfter, h]

/-- A chain of operators that are folded by then counts for one operand. -/
theorem balance_items {o : Operator} {c : Chain Tree}
    (h : ∀ q ∈ c.operators, q.passRank ≤ o.passRank) : balance o c.items = 1 := by
  obtain ⟨x, links⟩ := c
  induction links generalizing x with
  | nil => rfl
  | cons p links ih =>
    obtain ⟨q, t⟩ := p
    have hq : q.passRank ≤ o.passRank := h q List.mem_cons_self
    have hrest := ih t fun q' hq' => h q' (List.mem_cons_of_mem _ hq')
    rw [Chain.items_cons, balance_cons, balance_cons o (.operator q), balance_operand,
      balance_operator_of_le hq, hrest]
    rfl

end

/-- **No pass changes the balance for an operator of a later one.** -/
theorem Expands.balance_eq {op o : Operator} {l m : Level} (h : Expands op l m)
    (ho : op.passRank ≤ o.passRank) : balance o l = balance o m := by
  induction h with
  | nil => rfl
  | @operator q l m h ih => rw [balance_cons, ih, ← balance_cons]
  | @operand c t l m hc h ih =>
    have hitems : balance o c.items = 1 := balance_items fun q hq => by
      rwa [List.mem_singleton.mp (hc.operators_subset q hq)]
    rw [balance_cons, balance_append, ih, hitems, balance_operand]

/-- So no pass changes where a later operator is folded. -/
theorem Expands.fold_eq {op o : Operator} {p q : Place} (h : Expands op p.before q.before)
    (ho : op.passRank ≤ o.passRank) : p.fold o = q.fold o := by
  rw [Place.fold, Place.fold, h.balance_eq ho]

/-! ## The folds of one pass -/

/-- **The folds of a pass under way**, at the places that are still ahead. Only
operators of this pass and of later ones are on the level (`hrest`), so the
balance of what is read counts what is put out (`hn`). -/
theorem passFoldsFrom_eq {op : Operator} {done : List Fold} {n : Nat} {ready : Bool}
    {rest : Level} (front : Level) (hn : (n : Int) = balance op front)
    (hready : ready = endsOperand front) (hpos : ready = true → 0 < n)
    (hrest : ∀ q, .operator q ∈ rest → op.passRank ≤ q.passRank) :
    (passFoldsFrom op done n ready rest).map Fold.signed
      = done.reverse.map Fold.signed
        ++ (((places op rest).map (Place.behind front)).takeWhile Place.isSupplied).map
          (Place.fold op) := by
  fun_induction passFoldsFrom op done n ready rest generalizing front with
  | case1 done n ready => simp [places]
  | case2 done n ready t rest ih =>
    rw [places_operand, Place.map_behind_behind]
    refine ih (front ++ [.operand t]) ?_ (by simp [Item.isOperand]) (fun _ => n.succ_pos)
      fun q hq => hrest q (List.mem_cons_of_mem _ hq)
    rw [balance_append, balance_operand]
    omega
  | case3 done n r rest ih =>
    have hfirst := Place.isSupplied_next_iff.mpr ⟨hready.symm, r, rest, rfl⟩
    have hfold : Fold.signed ⟨op, n - 1⟩
        = Place.fold op (Place.behind front ⟨[], .operand r :: rest⟩) := by
      have := hpos rfl
      rw [Fold.signed, Place.fold, Place.behind, List.append_nil, ← hn]
      exact Prod.ext rfl (by push_cast; omega)
    have hbalance : (n : Int) = balance op (front ++ [.operator op, .operand r]) := by
      rw [List.append_cons, balance_append, balance_append, balance_operand,
        balance_operator_of_le (Nat.le_refl _)]
      omega
    have hrest : ∀ q, .operator q ∈ rest → op.passRank ≤ q.passRank := fun q hq =>
      hrest q (List.mem_cons_of_mem _ (List.mem_cons_of_mem _ hq))
    rw [ih (front ++ [.operator op, .operand r]) hbalance (by simp [endsOperand, Item.isOperand])
      hpos hrest, places_self, places_operand, Place.map_behind_behind, List.map_cons,
      Place.map_behind_behind, List.takeWhile_cons_of_pos hfirst, List.map_cons, ← hfold]
    simp
  | case4 done n ready rest hnone =>
    have hfirst : ¬ (Place.behind front ⟨[], rest⟩).isSupplied = true := by
      rw [Place.isSupplied_next_iff, ← hready]
      rintro ⟨rfl, r, rest, rfl⟩
      exact hnone r rest rfl rfl
    rw [places_self, List.map_cons, List.takeWhile_cons_of_neg hfirst]
    simp
  | case5 done n ready o rest ho ih =>
    have hne : Item.operator o ≠ .operator op := by simpa using ho
    have hlt : op.passRank < o.passRank :=
      Nat.lt_of_le_of_ne (hrest o List.mem_cons_self) fun heq =>
        ho (Operator.passRank_injective heq).symm
    rw [places_cons_of_ne hne, Place.map_behind_behind]
    refine ih (front ++ [.operator o]) ?_ (by simp [Item.isOperand])
      (fun h => absurd h Bool.false_ne_true) fun q hq => hrest q (List.mem_cons_of_mem _ hq)
    rw [balance_append, balance_operator_of_lt hlt]
    omega

/-! ## The folds of all passes -/

/-- **A pass changes nothing of what later passes fold.** -/
theorem Expands.dueFolds_eq {op : Operator} {ops : List Operator} {l m : Level}
    (h : Expands op l m) (hops : ∀ o ∈ ops, op.passRank < o.passRank) :
    dueFolds ops l = dueFolds ops m := by
  induction ops with
  | nil => rfl
  | cons o ops ih =>
    have ho := hops o List.mem_cons_self
    have hne : o ≠ op := fun heq => Nat.lt_irrefl _ (heq ▸ ho)
    let look (p : Place) : Bool × (Operator × Int) := (p.isSupplied, p.fold o)
    have hlook : (l.places o).map look = (m.places o).map look :=
      h.map_places (fun p q hbefore hafter =>
        Prod.ext (isSupplied_eq hbefore hafter) (hbefore.fold_eq (Nat.le_of_lt ho))) hne
    have hfolds (n : Level) : ((n.places o).takeWhile Place.isSupplied).map (Place.fold o)
        = (((n.places o).map look).takeWhile Prod.fst).map Prod.snd := by
      rw [List.takeWhile_map, List.map_map]
      rfl
    rw [dueFolds, dueFolds, hfolds, hfolds, hlook, h.lacks_eq hne,
      ih fun q hq => hops q (List.mem_cons_of_mem o hq)]

/-- The folds of one pass, if no operator of an earlier pass is on the level. -/
theorem map_signed_passFolds {op : Operator} {level : Level}
    (h : ∀ q, .operator q ∈ level → op.passRank ≤ q.passRank) :
    (passFolds op level).map Fold.signed
      = ((level.places op).takeWhile Place.isSupplied).map (Place.fold op) := by
  have hbehind : (level.places op).map (Place.behind []) = level.places op := List.map_id _
  have hfolds : (passFoldsFrom op [] 0 false level).map Fold.signed = _ :=
    passFoldsFrom_eq [] rfl rfl (fun h => absurd h Bool.false_ne_true) h
  rw [passFolds, hfolds, hbehind]
  rfl

/-- **The folds of passes in their order**, if the level has no other
operators. -/
theorem map_signed_foldsOfPasses {ops : List Operator} {level : Level}
    (hops : ops.Pairwise fun o q => o.passRank < q.passRank)
    (hlevel : ∀ o, .operator o ∈ level → o ∈ ops) :
    (foldsOfPasses ops level).map Fold.signed = dueFolds ops level := by
  induction ops generalizing level with
  | nil => rfl
  | cons op ops ih =>
    obtain ⟨hop, hops⟩ := List.pairwise_cons.mp hops
    have hranks : ∀ q, .operator q ∈ level → op.passRank ≤ q.passRank := fun q hq => by
      rcases List.mem_cons.mp (hlevel q hq) with rfl | hq
      · exact Nat.le_refl _
      · exact Nat.le_of_lt (hop q hq)
    rw [foldsOfPasses, List.map_append, map_signed_passFolds hranks, dueFolds]
    cases hpass : pass op level with
    | error e =>
      rw [if_pos (pass_eq_error_iff.mp hpass).2]
      rfl
    | ok l =>
      have hlacks : ¬ level.lacks op = true := by
        rw [exists_pass_eq_ok_iff.mp ⟨l, hpass⟩]
        exact Bool.false_ne_true
      have hexpands := expands_of_pass hpass
      have hl : ∀ o, .operator o ∈ l → o ∈ ops := fun o ho =>
        (List.mem_cons.mp (hlevel o (hexpands.operator_mem ho))).resolve_left fun heq =>
          not_mem_of_passFrom hpass List.not_mem_nil (heq ▸ ho)
      rw [if_neg hlacks, ← hexpands.dueFolds_eq hop]
      exact congrArg _ (ih hops hl)

/-- **The folds of a level** are those that the level as it was written says. -/
theorem map_signed_folds (level : Level) :
    level.folds.map Fold.signed = dueFolds Operator.passOrder level :=
  map_signed_foldsOfPasses (by decide) fun o _ => o.mem_passOrder

/-- An operator that is supplied everywhere is folded everywhere. -/
theorem dueFolds_append {done : List Operator} {level : Level}
    (h : ∀ o ∈ done, level.lacks o = false) (ops : List Operator) :
    dueFolds (done ++ ops) level
      = (done.flatMap fun o => (level.places o).map (Place.fold o)) ++ dueFolds ops level := by
  induction done with
  | nil => rfl
  | cons o done ih =>
    have ho := h o List.mem_cons_self
    have hall : (level.places o).takeWhile Place.isSupplied = level.places o :=
      List.takeWhile_eq_self_iff.mpr (lacks_eq_false_iff.mp ho)
    rw [List.cons_append, dueFolds, hall, if_neg (by simp [ho]),
      ih fun q hq => h q (List.mem_cons_of_mem o hq), List.flatMap_cons, List.append_assoc]

/-- **If no operator lacks an operand, every operator has a fold.** -/
theorem map_signed_folds_of_complete {level : Level}
    (h : ∀ c, level.toTree ≠ .error (.missingOperand c)) :
    level.folds.map Fold.signed
      = Operator.passOrder.flatMap fun o => (level.places o).map (Place.fold o) := by
  have hnone : Operator.passOrder.find? level.lacks = none :=
    Option.eq_none_iff_forall_ne_some.mpr fun c hc =>
      h c (toTree_eq_missingOperand_iff.mpr hc)
  have hlacks : ∀ o ∈ Operator.passOrder, level.lacks o = false := fun o _ =>
    find?_lacks_eq_none_iff.mp hnone o
  have := dueFolds_append hlacks []
  rwa [List.append_nil, dueFolds, List.append_nil, ← map_signed_folds] at this

/-- **Otherwise the folds end before the first place of the operator that is
blamed where it lacks an operand.** -/
theorem map_signed_folds_of_missingOperand {level : Level} {c : Operator}
    (h : level.toTree = .error (.missingOperand c)) :
    level.lacks c = true
      ∧ level.folds.map Fold.signed
        = ((Operator.passOrder.takeWhile (· ≠ c)).flatMap fun o =>
            (level.places o).map (Place.fold o))
          ++ ((level.places c).takeWhile Place.isSupplied).map (Place.fold c) := by
  obtain ⟨hc, earlier, later, horder, hearlier⟩ :=
    List.find?_eq_some_iff_append.mp (toTree_eq_missingOperand_iff.mp h)
  have hlacks : ∀ o ∈ earlier, level.lacks o = false := fun o ho => by
    simpa using hearlier o ho
  have htake : Operator.passOrder.takeWhile (· ≠ c) = earlier := by
    have hne : ∀ o ∈ earlier, decide (o ≠ c) = true := fun o ho => by
      rw [decide_eq_true_eq]
      rintro rfl
      rw [hlacks o ho] at hc
      cases hc
    rw [horder, List.takeWhile_append_of_pos hne, List.takeWhile_cons_of_neg (by simp),
      List.append_nil]
  refine ⟨hc, ?_⟩
  rw [map_signed_folds, htake, horder, dueFolds_append hlacks, dueFolds, if_pos hc,
    List.append_nil]

/-! ## Levels that have a tree -/

/-- An operator is folded by the end of the pass of `o` or is not. -/
theorem countP_isOperator_eq (o : Operator) (level : Level) :
    level.countP Item.isOperator
      = level.countP (Item.isAfter o) + level.countP (Item.isNotAfter o) := by
  induction level with
  | nil => rfl
  | cons i level ih =>
    cases i with
    | operand t => simpa [Item.isAfter, Item.isNotAfter] using ih
    | operator q =>
      rcases Nat.lt_or_ge o.passRank q.passRank with hq | hq
      · rw [Item.countP_operator_cons, List.countP_cons_of_pos (by simpa [Item.isAfter] using hq),
          List.countP_cons_of_neg (by simpa [Item.isNotAfter] using hq), ih]
        omega
      · rw [Item.countP_operator_cons,
          List.countP_cons_of_neg (by simpa [Item.isAfter] using hq),
          List.countP_cons_of_pos (by simpa [Item.isNotAfter] using hq), ih]
        omega

/-- Before an operator of a chain there is one operand more than operators. -/
theorem countP_isOperand_before {c : Chain Tree} {o : Operator} {before after : Level}
    (h : c.items = before ++ .operator o :: after) :
    before.countP Item.isOperand = before.countP Item.isOperator + 1 := by
  obtain ⟨x, links⟩ := c
  induction links generalizing x before with
  | nil =>
    cases before with
    | nil => cases h
    | cons i before => simp [Chain.items] at h
  | cons p links ih =>
    obtain ⟨q, t⟩ := p
    rw [Chain.items_cons] at h
    cases before with
    | nil => cases h
    | cons i before =>
      obtain ⟨rfl, hlinks⟩ := List.cons.inj h
      cases before with
      | nil => rfl
      | cons j before =>
        obtain ⟨rfl, hrest⟩ := List.cons.inj hlinks
        rw [List.countP_cons_of_pos rfl, List.countP_cons_of_neg (by simp [Item.isOperand]),
          ih t hrest, Item.countP_operand_cons, Item.countP_operator_cons]

/-- **On a level that has a tree** the position is twice the number of operators
to the left that are still standing. -/
theorem fold_of_toTree {level : Level} {t : Tree} (h : level.toTree = .ok t) {o : Operator}
    {p : Place} (hp : p ∈ level.places o) :
    p.fold o = (o, 2 * (p.before.countP (Item.isAfter o) : Int)) := by
  obtain ⟨c, rfl, -⟩ := toTree_eq_ok_iff.mp h
  have hoperands := countP_isOperand_before (mem_places_iff.mp hp)
  have hoperators := countP_isOperator_eq o p.before
  rw [Place.fold, balance]
  exact Prod.ext rfl (by push_cast [hoperands, hoperators]; omega)

end Level

end IntegerCalculator
