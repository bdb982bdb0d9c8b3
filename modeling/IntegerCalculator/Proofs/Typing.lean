import IntegerCalculator.Proofs.Tokenizing
import IntegerCalculator.Window.Frame
import Mathlib.Data.List.DropRight
import Mathlib.Data.List.Infix

/-!
# The keypad enters what was pressed

The keys that stand in the entry form a **stack**: a key of the keypad goes on
top of it, the delete button takes the topmost off, and clearing the entry
empties it (`Step.onKeys`). Keys and buttons put spaces into the entry and take
them out again, each in its own manner, so the entry is not the text of its
keys; but it reproduces them (`Reproduces`): it is that text up to spaces, none
of which stands where it would matter.

The spaces are told by `Typed`: of two neighbours one may be set off from the
other unless both are digits. The exception is the space that an operator has
just put behind itself and that only the next key makes one between
neighbours, hence `Entered`. Each way of typing keeps `Entered`
(`Entered.typeKey`, `Entered.deleteLast`), so every step does and every run.
-/

namespace IntegerCalculator

/-! ## Spaces at the end -/

namespace Text

/-- **The spaces at the end are dropped as the library drops them**, so what it
knows of `List.rdropWhile` holds for an entry. -/
theorem withoutTrailingSpaces_eq_rdropWhile (t : Text) :
    t.withoutTrailingSpaces = t.rdropWhile (· == ' ') := rfl

/-- One more space at the end is dropped with the others. -/
@[simp] theorem withoutTrailingSpaces_append_space (t : Text) :
    withoutTrailingSpaces (t ++ [' ']) = t.withoutTrailingSpaces :=
  List.rdropWhile_concat_pos (· == ' ') t ' ' rfl

/-- A text that ends with no space has none to lose. -/
theorem withoutTrailingSpaces_of_getLast? {t : Text} (h : t.getLast? ≠ some ' ') :
    t.withoutTrailingSpaces = t :=
  List.rdropWhile_eq_self_iff.mpr fun hne hspace => h <| by
    rw [List.getLast?_eq_some_getLast hne, eq_of_beq hspace]

end Text

/-! ## The stack of keys -/

/-- What the keys of a stack write. The topmost key is the last character. -/
def Key.write (ks : List Key) : Text := (ks.map symbol).reverse

@[simp] theorem Key.write_cons (k : Key) (ks : List Key) :
    write (k :: ks) = write ks ++ [k.symbol] := by
  simp [write]

/-- **A step on the stack of keys.** -/
def Step.onKeys (ks : List Key) : Step → List Key
  | .click (.key k) => k :: ks
  | .click .delete => ks.tail
  | .click .clearEntry | .click .reset | .clearEntry | .reset | .frame .escape => []
  | _ => ks

/-- The stack of keys that a run from a fresh window leaves. -/
def Step.keysOf (steps : List Step) : List Key := steps.foldl onKeys []

/-- A step that writes into the entry past the keypad: from outside, from the
keyboard or from the history. -/
def Step.bypassesKeypad : Step → Bool
  | .setEntry _ => true
  | .restore _ => true
  | .frame .backspace => true
  | .frame (.typed _) => true
  | .click (.past _) => true
  | _ => false

/-- **An entry reproduces the keys of a stack.** -/
structure Reproduces (entry : Text) (ks : List Key) : Prop where
  /-- Its characters other than spaces are those of the keys. -/
  letters : entry.filter (· ≠ ' ') = Key.write ks
  /-- It has the tokens of the keys: no space splits a number. -/
  tokens : tokenize entry = tokenize (Key.write ks)
  /-- It has the same value, or the same error. -/
  value : calculate entry = calculate (Key.write ks)
  /-- No space stands in front. -/
  head_ne_space : entry.head? ≠ some ' '
  /-- No two spaces stand together. -/
  no_double_space : ¬ [' ', ' '] <:+: entry

/-! ## Keys with spaces between them -/

/-- **A text that keys have written**, some of them set off by a space. There
is no space around it, and none between two digits. -/
inductive Typed : List Key → Text → Prop where
  | nil : Typed [] []
  | key (k : Key) {ks : List Key} {t : Text} (h : Typed ks t) :
      Typed (k :: ks) (t ++ [k.symbol])
  | spaced (k : Key) {j : Key} {ks : List Key} {t : Text} (h : Typed (j :: ks) t)
      (hdigit : j.symbol.isDigit = false ∨ k.symbol.isDigit = false) :
      Typed (k :: j :: ks) (t ++ [' '] ++ [k.symbol])

/-- **An entry whose keys are those of the stack.** Behind an operator at its
end there may be a space. -/
inductive Entered : List Key → Text → Prop where
  | typed {ks : List Key} {t : Text} (h : Typed ks t) : Entered ks t
  | spaced (op : Operator) {ks : List Key} {t : Text} (h : Typed (.operator op :: ks) t) :
      Entered (.operator op :: ks) (t ++ [' '])

/-- Where two spaces stand together in a text with one character more. -/
theorem double_space_infix_concat {t : Text} {c : Char} :
    [' ', ' '] <:+: t ++ [c] ↔ c = ' ' ∧ t.getLast? = some ' ' ∨ [' ', ' '] <:+: t := by
  have hsuffix : [' ', ' '] <:+ t ++ [c] ↔ c = ' ' ∧ t.getLast? = some ' ' := by
    rw [show [' ', ' '] = [' '] ++ [' '] from rfl, List.suffix_concat_iff,
      ← List.singleton_suffix_iff_getLast?_eq_some]
    constructor
    · rintro (h | ⟨s, hs, ht⟩)
      · cases h
      · obtain ⟨rfl, hc⟩ := List.append_inj' hs rfl
        exact ⟨(List.cons.inj hc).1.symm, ht⟩
    · rintro ⟨rfl, ht⟩
      exact .inr ⟨_, rfl, ht⟩
  rw [List.infix_concat_iff, hsuffix]

namespace Typed

variable {k : Key} {ks : List Key} {t : Text}

/-- The topmost key is the last character. -/
theorem getLast? (h : Typed ks t) : t.getLast? = ks.head?.map Key.symbol := by
  cases h <;> simp

/-- Keys in the entry show. -/
theorem eq_nil_iff (h : Typed ks t) : t = [] ↔ ks = [] := by
  rw [← List.getLast?_eq_none_iff, h.getLast?, Option.map_eq_none_iff, List.head?_eq_none_iff]

theorem getLast?_ne_space (h : Typed ks t) : t.getLast? ≠ some ' ' := by
  rw [h.getLast?]
  intro hspace
  obtain ⟨k, -, hk⟩ := Option.map_eq_some_iff.mp hspace
  exact k.symbol_ne_space hk

theorem withoutTrailingSpaces (h : Typed ks t) : t.withoutTrailingSpaces = t :=
  Text.withoutTrailingSpaces_of_getLast? h.getLast?_ne_space

/-- **Taking the last character off takes the topmost key off**, and the space
before it. -/
theorem tail (h : Typed ks t) : Typed ks.tail (Text.withoutTrailingSpaces t.dropLast) := by
  cases h with
  | nil => exact .nil
  | key k h =>
    rw [List.dropLast_concat, h.withoutTrailingSpaces]
    exact h
  | spaced k h _ =>
    rw [List.dropLast_concat, Text.withoutTrailingSpaces_append_space, h.withoutTrailingSpaces]
    exact h

theorem filter_ne_space (h : Typed ks t) : t.filter (· ≠ ' ') = Key.write ks := by
  have hconcat (u : Text) (k : Key) :
      (u ++ [k.symbol]).filter (· ≠ ' ') = u.filter (· ≠ ' ') ++ [k.symbol] := by
    simp [k.symbol_ne_space]
  induction h with
  | nil => rfl
  | key k _ ih => rw [hconcat, ih, Key.write_cons]
  | spaced k _ _ ih =>
    rw [hconcat, List.filter_append, ih, Key.write_cons k]
    simp

/-- **The spaces do not change the tokens**, whatever the text goes on with. -/
theorem tokenize_append (h : Typed ks t) (u : Text) :
    tokenize (t ++ u) = tokenize (Key.write ks ++ u) := by
  induction h generalizing u with
  | nil => rfl
  | key k _ ih => simpa using ih (k.symbol :: u)
  | @spaced k j ks t h hdigit ih =>
    have hbeside : (∀ d ∈ t.getLast?, d.isDigit = false)
        ∨ ∀ d ∈ (k.symbol :: u).head?, d.isDigit = false := by
      rw [h.getLast?]
      exact hdigit.imp (fun hj d hd => Option.some.inj hd ▸ hj)
        fun hk d hd => Option.some.inj hd ▸ hk
    calc tokenize (t ++ [' '] ++ [k.symbol] ++ u)
        = tokenize (t ++ ' ' :: k.symbol :: u) := by simp
      _ = tokenize (t ++ k.symbol :: u) :=
          tokenize_append_cons_of_ignored (by decide) (by decide) hbeside
      _ = tokenize (Key.write (j :: ks) ++ k.symbol :: u) := ih _
      _ = tokenize (Key.write (k :: j :: ks) ++ u) := by simp

/-- Behind a key nothing changes the front of the text. -/
theorem head?_append (h : Typed (k :: ks) t) (u : Text) : (t ++ u).head? = t.head? := by
  cases t with
  | nil => exact absurd (h.eq_nil_iff.mp rfl) (List.cons_ne_nil k ks)
  | cons c t => rfl

theorem head?_ne_space (h : Typed ks t) : t.head? ≠ some ' ' := by
  induction h with
  | nil => exact nofun
  | @key k ks t h ih =>
    cases ks with
    | nil =>
      rw [h.eq_nil_iff.mpr rfl]
      simpa using k.symbol_ne_space
    | cons j ks =>
      rw [h.head?_append]
      exact ih
  | spaced k h _ ih =>
    rw [List.append_assoc, h.head?_append]
    exact ih

theorem no_double_space (h : Typed ks t) : ¬ [' ', ' '] <:+: t := by
  induction h with
  | nil => decide
  | key k _ ih =>
    rw [double_space_infix_concat]
    rintro (⟨hk, -⟩ | hdouble)
    · exact k.symbol_ne_space hk
    · exact ih hdouble
  | spaced k h _ ih =>
    rw [double_space_infix_concat, double_space_infix_concat]
    rintro (⟨hk, -⟩ | ⟨-, hlast⟩ | hdouble)
    · exact k.symbol_ne_space hk
    · exact h.getLast?_ne_space hlast
    · exact ih hdouble

end Typed

namespace Entered

variable {ks : List Key} {entry : Text}

/-- Less the space at its end, the entry is what the keys have written. -/
theorem withoutTrailingSpaces (h : Entered ks entry) :
    Typed ks (Text.withoutTrailingSpaces entry) := by
  cases h with
  | typed h => rwa [h.withoutTrailingSpaces]
  | spaced op h => rwa [Text.withoutTrailingSpaces_append_space, h.withoutTrailingSpaces]

/-- After an operator no opening parenthesis is set off by another space. -/
theorem not_endsOperand_of_spaced {op : Operator} (h : Typed (.operator op :: ks) entry) :
    Text.endsOperand (entry ++ [' ']) = false := by
  obtain ⟨t, rfl⟩ := List.getLast?_eq_some_iff.mp h.getLast?
  rw [Text.endsOperand_append_space, Text.endsOperand_append_symbol,
    Key.isDigit_symbol_operator]
  cases op <;> rfl

/-- A key that is put down as it is. The space behind an operator sets it
off. -/
theorem append_symbol (h : Entered ks entry) (k : Key) :
    Typed (k :: ks) (entry ++ [k.symbol]) := by
  cases h with
  | typed h => exact h.key k
  | spaced op h => exact h.spaced k (.inl (Key.isDigit_symbol_operator op))

/-- **A key goes on top of the stack**, whichever way it is set off. -/
theorem typeKey (h : Entered ks entry) (k : Key) : Entered (k :: ks) (entry.typeKey k) := by
  cases k with
  | digit d => exact .typed (h.append_symbol _)
  | operator op =>
    have hkept := h.withoutTrailingSpaces
    rw [Text.typeKey]
    cases ks with
    | nil =>
      have hnil : Text.withoutTrailingSpaces entry = [] := hkept.eq_nil_iff.mpr rfl
      rw [if_pos (List.isEmpty_iff.mpr hnil)]
      exact .spaced op (Typed.nil.key (.operator op))
    | cons j ks =>
      have hne : Text.withoutTrailingSpaces entry ≠ [] := mt hkept.eq_nil_iff.mp nofun
      rw [if_neg (mt List.isEmpty_iff.mp hne)]
      simpa using Entered.spaced op (hkept.spaced _ (.inr (Key.isDigit_symbol_operator op)))
  | openParen =>
    rw [Text.typeKey]
    split
    · next hends =>
      cases h with
      | @typed ks t h =>
        cases ks with
        | nil =>
          rw [h.eq_nil_iff.mpr rfl] at hends
          cases hends
        | cons j ks => simpa using Entered.typed (h.spaced .openParen (.inr rfl))
      | spaced op h =>
        rw [not_endsOperand_of_spaced h] at hends
        cases hends
    · exact .typed (h.append_symbol _)
  | closeParen => exact .typed (h.withoutTrailingSpaces.key _)

/-- **The delete button takes the topmost key off.** -/
theorem deleteLast (h : Entered ks entry) : Entered ks.tail (Text.deleteLast entry) :=
  .typed h.withoutTrailingSpaces.tail

/-- The space at the end does not change the tokens either. -/
theorem tokenize_eq (h : Entered ks entry) : tokenize entry = tokenize (Key.write ks) := by
  cases h with
  | typed h => simpa using h.tokenize_append []
  | @spaced op ks t h =>
    calc tokenize (t ++ [' '])
        = tokenize (Key.write (.operator op :: ks) ++ ' ' :: []) := h.tokenize_append _
      _ = tokenize (Key.write (.operator op :: ks) ++ []) :=
          tokenize_append_cons_of_ignored (by decide) (by decide) (.inr nofun)
      _ = tokenize (Key.write (.operator op :: ks)) := by rw [List.append_nil]

/-- **An entry reproduces its keys.** -/
theorem reproduces (h : Entered ks entry) : Reproduces entry ks where
  letters := by
    cases h with
    | typed h => exact h.filter_ne_space
    | spaced op h =>
      rw [List.filter_append, h.filter_ne_space]
      exact List.append_nil _
  tokens := h.tokenize_eq
  value := by rw [calculate, calculate, workings_congr h.tokenize_eq]
  head_ne_space := by
    cases h with
    | typed h => exact h.head?_ne_space
    | spaced op h =>
      rw [h.head?_append]
      exact h.head?_ne_space
  no_double_space := by
    cases h with
    | typed h => exact h.no_double_space
    | spaced op h =>
      rw [double_space_infix_concat]
      rintro (⟨-, hlast⟩ | hdouble)
      · exact h.getLast?_ne_space hlast
      · exact h.no_double_space hdouble

end Entered

/-- **A step takes the keys of the entry along**, unless it bypasses the
keypad. -/
theorem Entered.step {w : Window} {ks : List Key} (h : Entered ks w.entry) {s : Step}
    (hs : s.bypassesKeypad = false) : Entered (s.onKeys ks) (w.step s).entry := by
  cases s with
  | setEntry | restore => cases hs
  | reset | clearEntry => exact .typed .nil
  | clearResults | fail | deposit => exact h
  | frame input =>
    cases input with
    | backspace | typed => cases hs
    | escape =>
      rw [Window.step, Window.frame_escape]
      exact .typed .nil
    | idle =>
      rw [Window.step, Window.frame_idle, Window.entry_grantFocus]
      exact h
    | enter =>
      rw [Window.step, Window.frame_enter]
      split
      · rw [Window.entry_evaluate]
        exact h
      · exact h
  | click b =>
    rw [← Window.entry_grantFocus] at h
    rw [Window.step, Window.click_eq]
    cases b with
    | past => cases hs
    | clearEntry | reset => exact .typed .nil
    | delete => exact h.deleteLast
    | key k => exact h.typeKey k
    | clearResults | explanation | history => exact h
    | equals =>
      rw [Window.press, Window.entry_evaluate]
      exact h

/-- A run takes the keys of the entry along. -/
theorem Entered.run {w : Window} {ks : List Key} (h : Entered ks w.entry) {steps : List Step}
    (hsteps : ∀ s ∈ steps, s.bypassesKeypad = false) :
    Entered (steps.foldl Step.onKeys ks) (w.run steps).entry := by
  induction steps generalizing w ks with
  | nil => exact h
  | cons s steps ih =>
    exact ih (h.step (hsteps s List.mem_cons_self))
      fun t ht => hsteps t (List.mem_cons_of_mem s ht)

namespace Window

/-- **The keypad enters what was pressed**: whatever keys and buttons are
clicked on, the entry reproduces the keys that have not been taken back. -/
theorem fresh_run_reproduces {steps : List Step} (h : ∀ s ∈ steps, s.bypassesKeypad = false) :
    Reproduces (fresh.run steps).entry (Step.keysOf steps) :=
  (Entered.run (.typed .nil) h).reproduces

/-- Parentheses that are taken back leave no space between the digits of a
number, and take the space behind an operator with them. -/
theorem fresh_run_reproduces_deleted :
    Reproduces "42 +5".toList [.digit 5, .operator .add, .digit 2, .digit 4] := by
  let steps : List Step := [.click (.key (.digit 4)), .click (.key .openParen),
    .click .delete, .click (.key (.digit 2)), .click (.key (.operator .add)), .click .equals,
    .click (.key .openParen), .click .delete, .click (.key (.digit 5))]
  have hentry : (fresh.run steps).entry = "42 +5".toList := by decide +kernel
  have hkeys : Step.keysOf steps = [.digit 5, .operator .add, .digit 2, .digit 4] := by decide
  rw [← hentry, ← hkeys]
  exact fresh_run_reproduces (by decide)

end Window

end IntegerCalculator
