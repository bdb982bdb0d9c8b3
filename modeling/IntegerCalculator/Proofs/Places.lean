import Mathlib.Data.List.Basic
import Mathlib.Data.List.Find
import IntegerCalculator.Proofs.FirstFault
import IntegerCalculator.Proofs.FoldCount

/-!
# The places of an operator

An operator may stand on a level several times; a **place** tells one of these
times by what stands before it and what stands behind it (`Level.places`). A
place is supplied if the item just before it and the item just behind it are
operands, and the level lacks an operand for an operator that has a place which
is not supplied (`Level.lacks`).

A pass looks at a level that earlier passes have already changed. It is the
level as it was written that decides all the same: an earlier pass puts one
operand in the place of a whole chain, which began and ended with operands
(`Expands.map_places`). So each pass succeeds or fails as the places of its
operator on the original level are supplied or not (`passes_eq_error_iff`).
-/

namespace IntegerCalculator

namespace Level

/-- **A place on a level**: what stands before it and what stands behind it. -/
structure Place where
  before : Level
  after : Level

/-- Whether the last item is an operand. -/
def endsOperand (level : Level) : Bool := level.getLast?.any Item.isOperand

/-- Whether the first item is an operand. -/
def startsOperand (level : Level) : Bool := level.head?.any Item.isOperand

namespace Place

/-- The same place, with more in front. -/
def behind (front : Level) (p : Place) : Place := ⟨front ++ p.before, p.after⟩

/-- **Whether there is an operand on either side.** -/
def isSupplied (p : Place) : Bool := endsOperand p.before && startsOperand p.after

theorem behind_behind (l m : Level) (p : Place) :
    (p.behind m).behind l = p.behind (l ++ m) := by
  simp [behind]

theorem map_behind_behind (l m : Level) (ps : List Place) :
    (ps.map (behind m)).map (behind l) = ps.map (behind (l ++ m)) := by
  rw [List.map_map]
  exact List.map_congr_left fun p _ => p.behind_behind l m

end Place

/-- **The places where an operator stands**, from left to right. -/
def places (o : Operator) : Level → List Place
  | [] => []
  | i :: rest =>
    let further := (places o rest).map (Place.behind [i])
    if i = .operator o then ⟨[], rest⟩ :: further else further

/-- **Whether an operator stands somewhere without an operand on either side.** -/
def lacks (level : Level) (o : Operator) : Bool :=
  (level.places o).any fun p => !p.isSupplied

section

variable {o : Operator} {level : Level}

theorem places_self (o : Operator) (rest : Level) :
    places o (.operator o :: rest)
      = ⟨[], rest⟩ :: (places o rest).map (Place.behind [.operator o]) := by
  simp [places]

theorem places_cons_of_ne {i : Item} (h : i ≠ .operator o) (rest : Level) :
    places o (i :: rest) = (places o rest).map (Place.behind [i]) := by
  simp [places, h]

theorem places_operand (o : Operator) (t : Tree) (rest : Level) :
    places o (.operand t :: rest) = (places o rest).map (Place.behind [.operand t]) :=
  places_cons_of_ne Item.noConfusion rest

theorem nil_not_mem_map_behind (i : Item) (after : Level) (ps : List Place) :
    ⟨[], after⟩ ∉ ps.map (Place.behind [i]) := by
  simp [Place.behind]

theorem cons_mem_map_behind {i j : Item} {before after : Level} {ps : List Place} :
    ⟨j :: before, after⟩ ∈ ps.map (Place.behind [i]) ↔ i = j ∧ ⟨before, after⟩ ∈ ps := by
  rw [List.mem_map]
  constructor
  · rintro ⟨q, hq, heq⟩
    cases heq
    exact ⟨rfl, hq⟩
  · rintro ⟨rfl, hmem⟩
    exact ⟨_, hmem, rfl⟩

/-- **A place cuts the level at its operator.** -/
theorem mem_places_iff {p : Place} :
    p ∈ level.places o ↔ level = p.before ++ .operator o :: p.after := by
  obtain ⟨before, after⟩ := p
  induction level generalizing before with
  | nil => simp [places]
  | cons i level ih =>
    by_cases hi : i = .operator o
    · subst hi
      rw [places_self, List.mem_cons]
      cases before with
      | nil => simpa [nil_not_mem_map_behind] using eq_comm
      | cons j before => simpa [cons_mem_map_behind] using fun _ => ih before
    · rw [places_cons_of_ne hi]
      cases before with
      | nil => simp [nil_not_mem_map_behind, hi]
      | cons j before => simpa [cons_mem_map_behind] using fun _ => ih before

/-- **The places are listed from left to right**, each of them once. -/
theorem pairwise_places (o : Operator) (level : Level) :
    (level.places o).Pairwise fun p q => p.before.length < q.before.length := by
  induction level with
  | nil => exact .nil
  | cons i level ih =>
    have hfurther : ((places o level).map (Place.behind [i])).Pairwise
        fun p q => p.before.length < q.before.length :=
      ih.map _ fun p q hpq => by simpa [Place.behind] using hpq
    by_cases hi : i = .operator o
    · subst hi
      rw [places_self]
      refine List.pairwise_cons.mpr ⟨fun p hp => ?_, hfurther⟩
      obtain ⟨q, -, rfl⟩ := List.mem_map.mp hp
      simp [Place.behind]
    · rwa [places_cons_of_ne hi]

theorem places_append_of_not_mem {front : Level} (h : .operator o ∉ front) :
    (front ++ level).places o = (level.places o).map (Place.behind front) := by
  induction front with
  | nil => exact (List.map_id _).symm
  | cons i front ih =>
    have hi : i ≠ .operator o := fun e => h (e ▸ List.mem_cons_self)
    rw [List.cons_append, places_cons_of_ne hi, ih (mt (List.mem_cons_of_mem i) h),
      Place.map_behind_behind, List.singleton_append]

theorem lacks_eq_false_iff :
    level.lacks o = false ↔ ∀ p ∈ level.places o, p.isSupplied = true := by
  simp [lacks]

end

/-! ## One pass -/

@[simp] theorem endsOperand_singleton (i : Item) : endsOperand [i] = i.isOperand := rfl

/-- More in front does not change the end. -/
@[simp] theorem endsOperand_append_cons (front : Level) (i : Item) (rest : Level) :
    endsOperand (front ++ i :: rest) = endsOperand (i :: rest) := by
  rw [endsOperand, List.getLast?_append_cons]
  rfl

theorem startsOperand_iff {level : Level} :
    startsOperand level = true ↔ ∃ t rest, level = .operand t :: rest := by
  cases level with
  | nil => simp [startsOperand]
  | cons i rest => cases i <;> simp [startsOperand, Item.isOperand]

theorem endsOperand_iff {level : Level} :
    endsOperand level = true ↔ ∃ front t, level = front ++ [.operand t] := by
  rcases List.eq_nil_or_concat level with rfl | ⟨front, i, rfl⟩
  · simp [endsOperand]
  · rw [List.concat_eq_append, endsOperand_append_cons, endsOperand_singleton]
    cases i <;> simp [Item.isOperand]

/-- A supplied place has an operand just before it and one just behind it. -/
theorem Place.isSupplied_iff {p : Place} :
    p.isSupplied = true
      ↔ (∃ front l, p.before = front ++ [.operand l]) ∧ ∃ r back, p.after = .operand r :: back := by
  rw [isSupplied, Bool.and_eq_true, endsOperand_iff, startsOperand_iff]

/-- An operator that comes next is supplied by the end of what is read and the
beginning of what is not. -/
theorem Place.isSupplied_next_iff {front rest : Level} :
    (Place.behind front ⟨[], rest⟩).isSupplied = true
      ↔ endsOperand front = true ∧ ∃ t after, rest = .operand t :: after := by
  rw [isSupplied, behind, List.append_nil, Bool.and_eq_true, startsOperand_iff]

/-- What is put out is listed from its end. -/
theorem ready_eq_startsOperand (out : List Item) : ready out = startsOperand out := by
  cases out with
  | nil => rfl
  | cons i out => cases i <;> rfl

/-- **A pass gets to the end if its operator is supplied everywhere.** Of what
it has put out (`out`) and what it has read (`front`), it matters only whether
they end with an operand, and they do so together. -/
theorem exists_passFrom_eq_ok_iff {op : Operator} {out rest : Level} (front : Level)
    (h : ready out = endsOperand front) :
    (∃ l, passFrom op out rest = .ok l)
      ↔ ∀ p ∈ places op rest, (p.behind front).isSupplied = true := by
  fun_induction passFrom op out rest generalizing front with
  | case1 out => simp [places]
  | case2 out t rest ih =>
    rw [ih (front ++ [.operand t]) (by simp [ready, Item.isOperand]), places_operand]
    simp [Place.behind_behind]
  | case3 l out r rest ih =>
    have hfirst : (Place.behind front ⟨[], .operand r :: rest⟩).isSupplied = true :=
      Place.isSupplied_next_iff.mpr ⟨h.symm, r, rest, rfl⟩
    rw [ih (front ++ [.operator op, .operand r])
      (by simp [ready, endsOperand, Item.isOperand]), places_self, places_operand]
    simp [hfirst, Place.behind_behind]
  | case4 out rest hfold =>
    have hfirst : (Place.behind front ⟨[], rest⟩).isSupplied ≠ true := by
      rw [Ne, Place.isSupplied_next_iff, ← h, ready_eq_startsOperand, startsOperand_iff]
      rintro ⟨⟨l, out, rfl⟩, r, rest, rfl⟩
      exact hfold l out r rest rfl rfl
    rw [places_self]
    simp [hfirst]
  | case5 out o rest ho ih =>
    have hne : Item.operator o ≠ .operator op := by simpa using ho
    rw [ih (front ++ [.operator o]) (by simp [ready, Item.isOperand]),
      places_cons_of_ne hne]
    simp [Place.behind_behind]

theorem exists_pass_eq_ok_iff {op : Operator} {level : Level} :
    (∃ l, pass op level = .ok l) ↔ level.lacks op = false :=
  (exists_passFrom_eq_ok_iff [] rfl).trans lacks_eq_false_iff.symm

/-- **A pass fails if its operator lacks an operand**, and in no other case. -/
theorem pass_eq_error_iff {op : Operator} {level : Level} {e : CalcError} :
    pass op level = .error e ↔ e = .missingOperand op ∧ level.lacks op = true := by
  constructor
  · intro h
    refine ⟨eq_missingOperand_of_passFrom h, ?_⟩
    rw [← Bool.not_eq_false, ← exists_pass_eq_ok_iff]
    rintro ⟨l, hl⟩
    rw [h] at hl
    cases hl
  · rintro ⟨rfl, hlacks⟩
    cases hpass : pass op level with
    | ok l =>
      rw [exists_pass_eq_ok_iff.mp ⟨l, hpass⟩] at hlacks
      cases hlacks
    | error e => rw [eq_missingOperand_of_passFrom hpass]

/-- What a pass puts out expands to the level. -/
theorem expands_of_pass {op : Operator} {level l : Level} (h : pass op level = .ok l) :
    Expands op l level :=
  expands_of_passFrom h .nil

/-- **A pass leaves none of its operators.** -/
theorem not_mem_of_passFrom {op : Operator} {out rest l : Level}
    (h : passFrom op out rest = .ok l) (hout : .operator op ∉ out) : .operator op ∉ l := by
  fun_induction passFrom op out rest with
  | case1 out =>
    cases h
    simpa using hout
  | case2 out t rest ih => exact ih h (by simpa using hout)
  | case3 l out r rest ih => exact ih h (by simpa using hout)
  | case4 => cases h
  | case5 out o rest ho ih => exact ih h (by simpa [Ne.symm ho] using hout)

end Level

/-! ## What a pass does not change -/

namespace Chain

theorem items_cons (x : Tree) (o : Operator) (t : Tree) (links : List (Operator × Tree)) :
    items ⟨x, (o, t) :: links⟩ = .operand x :: .operator o :: items ⟨t, links⟩ := rfl

/-- A chain ends with an operand. -/
theorem exists_items_eq_concat (c : Chain Tree) :
    ∃ front t, c.items = front ++ [.operand t] := by
  obtain ⟨x, links⟩ := c
  rcases List.eq_nil_or_concat links with rfl | ⟨links, ⟨o, t⟩, rfl⟩
  · exact ⟨[], x, rfl⟩
  · exact ⟨.operand x :: links.flatMap linkItems ++ [.operator o], t,
      by simp [items, linkItems]⟩

theorem operator_mem_items {c : Chain Tree} {o : Operator} :
    .operator o ∈ c.items ↔ o ∈ c.operators := by
  simp [items, linkItems, operators]

end Chain

namespace Level

namespace Expands

variable {op o : Operator} {l m : Level}

/-- **A pass puts no operator on the level.** -/
theorem operator_mem (h : Expands op l m) (ho : .operator o ∈ l) : .operator o ∈ m := by
  induction h with
  | nil => exact ho
  | operator q h ih =>
    rcases List.mem_cons.mp ho with heq | ho
    · exact heq ▸ List.mem_cons_self
    · exact List.mem_cons_of_mem _ (ih ho)
  | operand hc h ih =>
    rcases List.mem_cons.mp ho with heq | ho
    · cases heq
    · exact List.mem_append_right _ (ih ho)

theorem startsOperand_eq (h : Expands op l m) : startsOperand l = startsOperand m := by
  cases h <;> rfl

theorem endsOperand_eq (h : Expands op l m) : endsOperand l = endsOperand m := by
  rcases List.eq_nil_or_concat l with rfl | ⟨l, i, rfl⟩
  · cases h
    rfl
  · rw [List.concat_eq_append] at h ⊢
    obtain ⟨m, n, rfl, -, hn⟩ := h.exists_of_append
    cases hn with
    | operator o hn =>
      cases hn
      simp
    | @operand c t _ _ hc hn =>
      cases hn
      obtain ⟨front, u, hitems⟩ := c.exists_items_eq_concat
      rw [hitems, List.append_nil, ← List.append_assoc, endsOperand_append_cons,
        endsOperand_append_cons]
      rfl

/-- A place is supplied after a pass if it was before. -/
theorem isSupplied_eq {p q : Place} (hbefore : Expands op p.before q.before)
    (hafter : Expands op p.after q.after) : p.isSupplied = q.isSupplied := by
  rw [Place.isSupplied, Place.isSupplied, hbefore.endsOperand_eq, hafter.startsOperand_eq]

/-- **The places of the other operators stay**, one for one, and what stands
around them expands to what stood around them. -/
theorem map_places {β : Type} {f g : Place → β}
    (hfg : ∀ p q : Place, Expands op p.before q.before → Expands op p.after q.after → f p = g q)
    (h : Expands op l m) (ho : o ≠ op) : (l.places o).map f = (m.places o).map g := by
  induction h generalizing f g with
  | nil => rfl
  | @operator q l m h ih =>
    have hfurther : ((places o l).map (Place.behind [.operator q])).map f
        = ((places o m).map (Place.behind [.operator q])).map g := by
      rw [List.map_map, List.map_map]
      exact ih fun p p' hbefore hafter => hfg _ _ (.operator q hbefore) hafter
    by_cases hq : Item.operator q = .operator o
    · cases hq
      rw [places_self, places_self, List.map_cons, List.map_cons, hfurther,
        hfg ⟨[], l⟩ ⟨[], m⟩ .nil h]
    · rw [places_cons_of_ne hq, places_cons_of_ne hq, hfurther]
  | @operand c t l m hc h ih =>
    have hitems : .operator o ∉ c.items := by
      rw [Chain.operator_mem_items]
      intro hmem
      exact ho (List.mem_singleton.mp (hc.operators_subset o hmem))
    rw [places_operand, places_append_of_not_mem hitems, List.map_map, List.map_map]
    exact ih fun p p' hbefore hafter => hfg _ _ (.operand hc hbefore) hafter

/-- **A pass neither finds nor loses an operand** for another operator. -/
theorem lacks_eq (h : Expands op l m) (ho : o ≠ op) : l.lacks o = m.lacks o := by
  have hmap : (l.places o).map Place.isSupplied = (m.places o).map Place.isSupplied :=
    h.map_places (fun _ _ => isSupplied_eq) ho
  have hlacks (n : Level) : n.lacks o = ((n.places o).map Place.isSupplied).any (!·) := by
    rw [List.any_map]
    rfl
  rw [hlacks, hlacks, hmap]

end Expands

/-! ## All passes -/

/-- The level that the passes of `ops` leave. -/
def passes (ops : List Operator) (level : Level) : Except CalcError Level :=
  ops.foldlM (fun items op => pass op items) level

theorem passes_cons (op : Operator) (ops : List Operator) (level : Level) :
    passes (op :: ops) level = pass op level >>= passes ops := by
  rw [passes, List.foldlM_cons]
  rfl

/-- **The passes fail at the first operator that lacks an operand** on the level
as it was before all passes. -/
theorem passes_eq_error_iff {ops : List Operator} (hops : ops.Nodup) {level : Level}
    {e : CalcError} :
    passes ops level = .error e
      ↔ ∃ c, ops.find? level.lacks = some c ∧ e = .missingOperand c := by
  induction ops generalizing level with
  | nil => simp [passes, pure, Except.pure]
  | cons op ops ih =>
    obtain ⟨hop, hops⟩ := List.nodup_cons.mp hops
    rw [passes_cons]
    cases hpass : pass op level with
    | error e' =>
      obtain ⟨rfl, hlacks⟩ := pass_eq_error_iff.mp hpass
      rw [List.find?_cons_of_pos hlacks]
      constructor
      · intro h
        cases h
        exact ⟨op, rfl, rfl⟩
      · rintro ⟨c, hc, rfl⟩
        cases hc
        rfl
    | ok l =>
      have hlacks : ¬ level.lacks op = true := by
        rw [exists_pass_eq_ok_iff.mp ⟨l, hpass⟩]
        exact Bool.false_ne_true
      have hfind : ops.find? l.lacks = ops.find? level.lacks :=
        List.find?_congr fun o ho =>
          (expands_of_pass hpass).lacks_eq fun heq => hop (heq ▸ ho)
      rw [List.find?_cons_of_neg hlacks, ← hfind]
      exact ih hops

/-- **What the passes leave was there before, and is none of their operators.** -/
theorem operator_mem_of_passes {ops : List Operator} {level l : Level} {o : Operator}
    (h : passes ops level = .ok l) (ho : .operator o ∈ l) :
    .operator o ∈ level ∧ o ∉ ops := by
  induction ops generalizing level with
  | nil =>
    cases h
    exact ⟨ho, List.not_mem_nil⟩
  | cons op ops ih =>
    rw [passes_cons] at h
    obtain ⟨level', hpass, h⟩ := exists_of_bind_eq_ok h
    obtain ⟨hmem, hops⟩ := ih h
    have hop : o ≠ op := by
      rintro rfl
      exact not_mem_of_passFrom hpass List.not_mem_nil hmem
    exact ⟨(expands_of_pass hpass).operator_mem hmem, List.not_mem_cons_of_ne_of_not_mem hop hops⟩

end Level

end IntegerCalculator
