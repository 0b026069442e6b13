import DeskCalc.Convert.Converter
import DeskCalc.Journal.Event
import DeskCalc.Session.Calculator

/-!
# The state of the program

The program is a calculator and a converter side by side, with the choices of
appearance around them: the keypad, the theme, the tab shown and whether the
history panel is open. Everything that can happen to it is a `Command`, and
`App.perform` carries one out. `App.events` lists what a command reports.

Computing and appearance are separate fields, so no choice of appearance can
reach a computation.
-/

namespace DeskCalc

/-- The two keypads. -/
inductive Keypad where
  | basic | scientific
deriving DecidableEq, Repr

/-- The two tabs. -/
inductive Tab where
  | calculator | converter
deriving DecidableEq, Repr

/-- The whole state. -/
structure App where
  calculator : Calculator
  converter : Converter
  keypad : Keypad
  tab : Tab
  dark : Bool
  /-- The history panel is open. -/
  panelOpen : Bool
  /-- The entry field is to get the keyboard as soon as it is shown. -/
  wantsFocus : Bool
deriving DecidableEq, Repr

/-- Everything that can happen to the state. -/
inductive Command where
  | press (key : Text)
  | clear
  | delete
  | evaluate
  | edit (text : Text)
  | reuse (number : Nat)
  | clearHistory
  | toggleKeypad
  | toggleTheme
  | showTab (tab : Tab)
  | setPanel (isOpen : Bool)
  | dropFocus
  | chooseCategory (category : Category)
  | setAmount (amount : Text)
  | chooseSource (u : MeasureUnit)
  | chooseTarget (u : MeasureUnit)
deriving DecidableEq, Repr

/-- The other keypad. -/
def Keypad.other : Keypad → Keypad
  | .basic => .scientific
  | .scientific => .basic

namespace App

/-- The state that settings start. The system's theme counts if the settings do
not choose one. -/
def start (s : Settings) (systemDark : Bool) : App where
  calculator := .start s.places
  converter := .start
  keypad := if s.scientific then .scientific else .basic
  tab := .calculator
  dark := s.dark?.getD systemDark
  panelOpen := false
  wantsFocus := true

/-- The state after a recorded entry has been taken up. An entry that is not
recorded changes nothing. -/
def reuse (a : App) (number : Nat) : App :=
  if (a.calculator.history.find? number).isSome then
    { a with
      calculator := a.calculator.reuse number
      panelOpen := false
      wantsFocus := true }
  else a

/-- The state after a command. -/
def perform (a : App) : Command → App
  | .press key => { a with calculator := a.calculator.press key, wantsFocus := true }
  | .clear => { a with calculator := a.calculator.clear, wantsFocus := true }
  | .delete => { a with calculator := a.calculator.delete, wantsFocus := true }
  | .evaluate =>
      { a with
        calculator := a.calculator.evaluate
        wantsFocus := a.wantsFocus || !a.calculator.isBlank }
  | .edit text => { a with calculator := a.calculator.edit text }
  | .reuse number => a.reuse number
  | .clearHistory => { a with calculator := a.calculator.clearHistory }
  | .toggleKeypad => { a with keypad := a.keypad.other }
  | .toggleTheme => { a with dark := !a.dark }
  | .showTab tab => { a with tab := tab }
  | .setPanel isOpen => { a with panelOpen := isOpen }
  | .dropFocus => { a with wantsFocus := false }
  | .chooseCategory category =>
      if category = a.converter.category then a
      else { a with converter := a.converter.chooseCategory category }
  | .setAmount amount => { a with converter := { a.converter with amount := amount } }
  | .chooseSource u => { a with converter := { a.converter with source := u } }
  | .chooseTarget u => { a with converter := { a.converter with target := u } }

/-- What the evaluation of a text reports: its order, if it has one, and then
why it has no value or the number under which its result is recorded. -/
def evaluationEvents (expression : Text) (places number : Nat) : List Event :=
  let order :=
    match analyse expression with
    | .ok rpn => [Event.analysed rpn]
    | .error _ => []
  let outcome :=
    match DeskCalc.evaluate expression with
    | .error e => [Event.refused expression e]
    | .ok x =>
        match Display.write x places with
        | .ok shown => [Event.recorded number shown]
        | .error _ => []
  order ++ outcome

/-- What a command reports. -/
def events (a : App) : Command → List Event
  | .evaluate =>
      if a.calculator.isBlank then []
      else
        evaluationEvents a.calculator.entry.trim a.calculator.places
          a.calculator.history.next
  | .clearHistory => [.historyCleared a.calculator.history.entries.length]
  | _ => []

end App

end DeskCalc
