import IntegerCalculator.Proofs.Typing
import Mathlib.Logic.Function.Iterate

/-!
# Taking back what was typed

Each kind of key spaces the entry in its own manner, and the delete button does
not ask which key it takes back. It need not: a key changes nothing of a text but
the spaces at its end and what comes behind them, and the delete button takes a
character with the spaces on both sides of it. What is left is the text less the
spaces it ended with (`Text.deleteLast_typeKey`).

So a key and the delete button do not quite cancel, and over several keys the
loss might grow. It does not. When all keys but the first are taken back, the text
behind the first is there again up to the spaces at its end, and the delete button
looks at a text only up to these (`Text.deleteLast_withoutTrailingSpaces`); hence
as many deletions as keys leave the text less its spaces, and nothing more is lost
on the way (`Text.iterate_deleteLast_foldl_typeKey`).

The backspace key of the keyboard is another way to take a character back. It
works in two halves within a frame: the entry field takes one character, whatever
it is, and the spaces at the end are dropped afterwards. That is what the delete
button does unless the character was a space; then the backspace key stops in
front of the character that the delete button would have taken
(`Window.backspace_against_delete`).
-/

namespace IntegerCalculator

namespace Text

/-! ## Spaces at the end -/

@[simp] theorem withoutTrailingSpaces_withoutTrailingSpaces (t : Text) :
    t.withoutTrailingSpaces.withoutTrailingSpaces = t.withoutTrailingSpaces :=
  List.rdropWhile_idempotent (· == ' ') t

/-- The delete button looks at a text up to the spaces at its end. -/
theorem deleteLast_withoutTrailingSpaces (t : Text) :
    t.withoutTrailingSpaces.deleteLast = t.deleteLast := by
  unfold deleteLast
  rw [withoutTrailingSpaces_withoutTrailingSpaces]

theorem deleteLast_append_space (t : Text) : deleteLast (t ++ [' ']) = deleteLast t := by
  unfold deleteLast
  rw [withoutTrailingSpaces_append_space]

/-- **The symbol of a key is taken back**, with the spaces in front of it. -/
theorem deleteLast_append_symbol (t : Text) (k : Key) :
    deleteLast (t ++ [k.symbol]) = t.withoutTrailingSpaces := by
  have hkept : (t ++ [k.symbol]).rdropWhile (· == ' ') = t ++ [k.symbol] :=
    List.rdropWhile_concat_neg (· == ' ') t k.symbol fun h => k.symbol_ne_space (eq_of_beq h)
  rw [deleteLast, withoutTrailingSpaces_eq_rdropWhile (t ++ [k.symbol]), hkept,
    List.dropLast_concat]

/-! ## One key -/

/-- **A key adds the token it writes**, or a digit to the number at the end. -/
theorem tokenize_typeKey (t : Text) (k : Key) :
    tokenize (t.typeKey k) = tokenize (t ++ [k.symbol]) := by
  have hkept := tokenize_withoutTrailingSpaces t
  cases k with
  | digit d => rfl
  | operator op =>
    have hsymbol (u : Text) := isDigit_head?_cons op.isDigit_symbol u
    have hbehind : tokenize [op.symbol, ' '] = tokenize [op.symbol] := by simp
    rw [typeKey]
    split
    · next hempty =>
      rw [List.isEmpty_iff.mp hempty] at hkept
      exact tokenize_append_congr hkept hbehind (hsymbol _) (hsymbol _)
    · exact tokenize_append_congr hkept ((tokenize_space_cons _).trans hbehind) (by simp)
        (hsymbol _)
  | openParen =>
    rw [typeKey]
    split
    · exact tokenize_append_congr rfl (tokenize_space_cons _) (by simp)
        (isDigit_head?_cons (by decide) _)
    · rfl
  | closeParen =>
    have hsymbol := isDigit_head?_cons (c := ')') (by decide) []
    exact tokenize_append_congr hkept rfl hsymbol hsymbol

/-- **The delete button takes a key back.** The spaces that the text ended with
are lost. -/
theorem deleteLast_typeKey (t : Text) (k : Key) :
    (t.typeKey k).deleteLast = t.withoutTrailingSpaces := by
  cases k with
  | digit d => exact deleteLast_append_symbol t (.digit d)
  | operator op =>
    rw [typeKey]
    split
    · next hempty =>
      rw [List.isEmpty_iff.mp hempty]
      exact (deleteLast_append_space [_]).trans (deleteLast_append_symbol [] (.operator op))
    · have hspaced : t.withoutTrailingSpaces ++ [' ', (Key.operator op).symbol, ' ']
          = t.withoutTrailingSpaces ++ [' '] ++ [(Key.operator op).symbol] ++ [' '] := by
        simp only [List.append_assoc, List.cons_append, List.nil_append]
      rw [hspaced, deleteLast_append_space, deleteLast_append_symbol,
        withoutTrailingSpaces_append_space, withoutTrailingSpaces_withoutTrailingSpaces]
  | openParen =>
    rw [typeKey]
    split
    · have hspaced : t ++ [' ', Key.openParen.symbol] = t ++ [' '] ++ [Key.openParen.symbol] := by
        simp only [List.append_assoc, List.cons_append, List.nil_append]
      rw [hspaced, deleteLast_append_symbol, withoutTrailingSpaces_append_space]
    · exact deleteLast_append_symbol t .openParen
  | closeParen =>
    exact (deleteLast_append_symbol t.withoutTrailingSpaces .closeParen).trans
      (withoutTrailingSpaces_withoutTrailingSpaces t)

/-! ## As many deletions as keys -/

/-- **As many deletions as keys leave the text less the spaces at its end.** -/
theorem iterate_deleteLast_foldl_typeKey (t : Text) (k : Key) (ks : List Key) :
    deleteLast^[(k :: ks).length] ((k :: ks).foldl typeKey t) = t.withoutTrailingSpaces := by
  induction ks generalizing t k with
  | nil => exact deleteLast_typeKey t k
  | cons j ks ih =>
    -- the last deletion meets the first key, less the spaces behind it
    calc deleteLast^[(k :: j :: ks).length] ((k :: j :: ks).foldl typeKey t)
        = deleteLast (deleteLast^[(j :: ks).length] ((j :: ks).foldl typeKey (t.typeKey k))) :=
          Function.iterate_succ_apply' ..
      _ = deleteLast (t.typeKey k).withoutTrailingSpaces := by rw [ih]
      _ = t.withoutTrailingSpaces := by rw [deleteLast_withoutTrailingSpaces, deleteLast_typeKey]

end Text

namespace Window

/-- Clicks on keys type them one behind the other. -/
theorem entry_run_keys (w : Window) (ks : List Key) :
    (w.run (ks.map fun k => .click (.key k))).entry = ks.foldl Text.typeKey w.entry := by
  induction ks generalizing w with
  | nil => rfl
  | cons k ks ih =>
    have hentry : (w.step (.click (.key k))).entry = w.entry.typeKey k := by
      rw [step, click_eq, press, entry_grantFocus]
    rw [List.map_cons, run_cons, ih, hentry, List.foldl_cons]

theorem entry_click_delete (w : Window) : (w.click .delete).entry = w.entry.deleteLast := by
  rw [click_eq, press, entry_grantFocus]

/-- Clicks on the delete button take one character after the other. -/
theorem entry_run_deletes (w : Window) (n : Nat) :
    (w.run (List.replicate n (.click .delete))).entry = Text.deleteLast^[n] w.entry := by
  induction n generalizing w with
  | zero => rfl
  | succ n ih =>
    rw [List.replicate_succ, run_cons, ih, step, entry_click_delete, Function.iterate_succ_apply]

end Window

/-- **What the keypad types is its symbols, and the delete button takes it back.**
A key adds the tokens that its symbol alone would add, and is taken back up to
the spaces that the text ended with; so are any number of keys, in the entry of
any window. -/
theorem typed_keys_taken_back (s : Text) :
    (∀ k : Key, tokenize (s.typeKey k) = tokenize (s ++ [k.symbol])
        ∧ (s.typeKey k).deleteLast = s.rdropWhile (· == ' '))
      ∧ ∀ ks : List Key, ks ≠ [] →
        Text.deleteLast^[ks.length] (ks.foldl Text.typeKey s) = s.rdropWhile (· == ' ')
          ∧ ∀ w : Window, w.entry = s →
            (w.run ((ks.map fun k => .click (.key k))
              ++ List.replicate ks.length (.click .delete))).entry = s.rdropWhile (· == ' ') := by
  refine ⟨fun k => ⟨s.tokenize_typeKey k, s.deleteLast_typeKey k⟩, fun ks hks => ?_⟩
  have htexts : Text.deleteLast^[ks.length] (ks.foldl Text.typeKey s)
      = s.rdropWhile (· == ' ') := by
    obtain ⟨k, ks, rfl⟩ := List.exists_cons_of_ne_nil hks
    exact s.iterate_deleteLast_foldl_typeKey k ks
  refine ⟨htexts, fun w hw => ?_⟩
  rw [Window.run_append, Window.entry_run_deletes, Window.entry_run_keys, hw]
  exact htexts

/-- A parenthesis, a digit and a product are taken back behind `4` and a no-break
space, which stays; the space behind it does not. -/
theorem typed_keys_taken_back_no_break :
    Text.deleteLast^[3] ([.openParen, .digit 5, .operator .mul].foldl Text.typeKey
        "4\u00a0 ".toList) = "4\u00a0".toList
      ∧ (Window.run { entry := "4\u00a0 ".toList } [.click (.key .openParen),
        .click (.key (.digit 5)), .click (.key (.operator .mul)), .click .delete, .click .delete,
        .click .delete]).entry = "4\u00a0".toList := by
  obtain ⟨htext, hwindow⟩ := (typed_keys_taken_back "4\u00a0 ".toList).2
    [.openParen, .digit 5, .operator .mul] (by decide)
  have hkept : List.rdropWhile (· == ' ') "4\u00a0 ".toList = "4\u00a0".toList := by decide
  exact ⟨htext.trans hkept, (hwindow { entry := "4\u00a0 ".toList } rfl).trans hkept⟩

namespace Window

/-- **The backspace key does what the delete button does, unless the entry ends with
a space.** Then it takes the spaces at the end and nothing else, and does what
the delete button would have done when it is pressed again. The entry field keeps
the keyboard, and nothing but the entry changes. -/
theorem backspace_against_delete {w : Window} (h : w.focused = true) :
    (w.click .delete).entry = w.entry.deleteLast
      ∧ (w.entry.getLast? ≠ some ' ' →
        w.frame .backspace
          = { w with entry := w.entry.deleteLast, wantsFocus := false, focused := true })
      ∧ (w.entry.getLast? = some ' ' →
        w.frame .backspace
            = { w with
                entry := w.entry.rdropWhile (· == ' ')
                wantsFocus := false
                focused := true }
          ∧ (w.frame .backspace).frame .backspace
            = { w with entry := w.entry.deleteLast, wantsFocus := false, focused := true }) := by
  refine ⟨entry_click_delete w, fun hlast => ?_, fun hlast => ?_⟩
  · have hkept := Text.withoutTrailingSpaces_of_getLast? hlast
    rw [frame_backspace h, Text.deleteLast, hkept]
  · -- the entry field takes one of the spaces, and the others are dropped
    have hdrop : Text.withoutTrailingSpaces w.entry.dropLast = w.entry.withoutTrailingSpaces := by
      obtain ⟨t, ht⟩ := List.getLast?_eq_some_iff.mp hlast
      rw [ht, List.dropLast_concat, Text.withoutTrailingSpaces_append_space]
    have hframe := frame_backspace h
    rw [hdrop] at hframe
    refine ⟨hframe, ?_⟩
    -- less its spaces, the entry is what the delete button takes a character from
    rw [hframe, frame_backspace rfl]
    rfl

/-- Behind `4 + ` it takes two frames to come to `4`, behind `4 +` one. -/
theorem backspace_against_delete_operator :
    let w : Window := { entry := "4 + ".toList, focused := true }
    (w.frame .backspace).entry = "4 +".toList
      ∧ ((w.frame .backspace).frame .backspace).entry = "4".toList
      ∧ (Window.frame { w with entry := "4 +".toList } .backspace).entry = "4".toList := by
  intro w
  obtain ⟨hfirst, hsecond⟩ := (backspace_against_delete (w := w) rfl).2.2 (by decide)
  have hone := (backspace_against_delete (w := { w with entry := "4 +".toList }) rfl).2.1
    (by decide)
  rw [hfirst] at hsecond
  rw [hfirst, hsecond, hone]
  exact ⟨by decide, by decide, by decide⟩

end Window

end IntegerCalculator
