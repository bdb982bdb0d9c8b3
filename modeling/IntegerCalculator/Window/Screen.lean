import IntegerCalculator.Window.Frame

/-!
# What the window shows

The **screen** of a window lists its labels and its buttons in the order in
which they are drawn. The entry field is not among them. An error has a line
only while there is one; the two panels list their contents only while they
are open.
-/

namespace IntegerCalculator

/-- A label or a button on the screen, with its text. -/
inductive ScreenItem where
  | label (t : Text)
  | button (t : Text)
  deriving DecidableEq

/-- A past calculation on one line. -/
def Calculation.line (c : Calculation) : Text := c.entry ++ " = ".toList ++ c.result

/-- **The text on a button.** That of a past calculation is read off the
history. -/
def Button.caption (history : List Calculation) : Button → Text
  | .clearEntry => "C".toList
  | .clearResults => "CLR".toList
  | .reset => "AC".toList
  | .delete => "DEL".toList
  | .key k => [k.symbol]
  | .equals => "=".toList
  | .explanation => "Démarche".toList
  | .history => "Historique".toList
  | .past i => (history[i]?.map Calculation.line).getD []

/-- The buttons above the result, in order. -/
def Button.entryButtons : List Button :=
  [clearEntry, clearResults, reset, delete] ++ Key.rows.flatten.map key ++ [equals]

/-- The buttons that every window has. -/
def Button.permanent : List Button := entryButtons ++ [explanation, history]

namespace Window

/-- A button as this window shows it. -/
def shown (w : Window) (b : Button) : ScreenItem := .button (b.caption w.history)

/-- The titles and contents of the explanation panel. -/
def explanationItems (e : Explanation) : List ScreenItem :=
  [.label "Jetons :".toList, .label e.tokens,
    .label "Expression :".toList, .label e.expression,
    .label "Arbre :".toList, .label e.outline,
    .label "Note :".toList, .label e.note]

/-- The contents of the history panel: a button for each past calculation. -/
def historyItems (w : Window) : List ScreenItem :=
  if w.history.isEmpty then [.label "vide".toList]
  else (List.range w.history.length).map fun i => w.shown (.past i)

/-- **The screen, from top to bottom.** -/
def screen (w : Window) : List ScreenItem :=
  [.label "Calculatrice entière".toList, .label "Entrée :".toList]
    ++ Button.entryButtons.map w.shown
    ++ (if w.error.isEmpty then [] else [.label w.error])
    ++ [.label "Résultat :".toList, .label w.result, w.shown .explanation]
    ++ (if w.explanationOpen then explanationItems w.explanation else [])
    ++ [w.shown .history]
    ++ (if w.historyOpen then w.historyItems else [])

end Window

end IntegerCalculator
