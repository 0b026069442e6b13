import DeskCalc.Session.App

/-!
# Keys

A key has a label and causes a command. Most keys insert a text; the label of a
function key leaves out the opening parenthesis that the key inserts.
-/

namespace DeskCalc

/-- One key of a keypad. -/
inductive Key where
  | insert (label : String) (text : Text)
  | clear
  | delete
  | equals
deriving DecidableEq, Repr

namespace Key

/-- The label on the key. -/
def label : Key → String
  | .insert label _ => label
  | .clear => "AC"
  | .delete => "DEL"
  | .equals => "="

/-- What the key does. -/
def command : Key → Command
  | .insert _ text => .press text
  | .clear => .clear
  | .delete => .delete
  | .equals => .evaluate

/-- A key that inserts its label. -/
def plain (c : Char) : Key := .insert c.toString [c]

/-- A key that inserts a function and an opening parenthesis. -/
def call (label : String) (f : Function) : Key := .insert label (f.name ++ ['('])

end Key

namespace Keypad

/-- The label of the button that changes the keypad, naming the present one. -/
def label : Keypad → String
  | .basic => "Basique"
  | .scientific => "Scientifique"

/-- The keys, line by line. -/
def rows : Keypad → List (List Key)
  | .basic =>
      [[.clear, .delete, .plain '÷'],
       [.plain '7', .plain '8', .plain '9', .plain '×'],
       [.plain '4', .plain '5', .plain '6', .plain '-'],
       [.plain '1', .plain '2', .plain '3', .plain '+'],
       [.plain '0', .plain '.', .equals]]
  | .scientific =>
      [[.clear, .plain '(', .plain ')', .delete, .plain '÷'],
       [.call "sin" .sin, .call "cos" .cos, .call "tan" .tan, .plain '^', .call "√" .sqrt],
       [.call "ln" .ln, .plain '7', .plain '8', .plain '9', .plain '×'],
       [.call "log" .log, .plain '4', .plain '5', .plain '6', .plain '-'],
       [.plain 'π', .plain '1', .plain '2', .plain '3', .plain '+'],
       [.plain 'e', .plain '0', .plain '.', .equals]]

/-- The keys in order. -/
def keys (k : Keypad) : List Key := k.rows.flatten

/-- The key with a given label. -/
def key? (k : Keypad) (label : String) : Option Key := k.keys.find? fun key => key.label == label

end Keypad

end DeskCalc
