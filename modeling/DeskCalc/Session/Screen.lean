import DeskCalc.Session.Key

/-!
# The screen

The screen shows the state and takes gestures. At most one text field has the
keyboard focus, and only a field that is shown can have it. A gesture aims at
something on the screen; where that is missing, the gesture has no effect.

`Screen.react` decides what a gesture means: whether it was done, where the
focus goes, and which command it causes, at most one. `Screen.step` carries
that out and then gives the focus to the entry field if that is due.
-/

namespace DeskCalc

/-- The fields that a text can be typed into. -/
inductive Field where
  | entry | amount
deriving DecidableEq, Repr

/-- The two lists of units. -/
inductive UnitList where
  | source | target
deriving DecidableEq, Repr

/-- What the user does. -/
inductive Gesture where
  /-- Click the button with this label. -/
  | click (label : String)
  /-- Click the key with this label. -/
  | key (label : String)
  /-- Click the entry of the history panel at this position. -/
  | pickEntry (position : Nat)
  /-- Choose the unit with this label. -/
  | pickUnit (list : UnitList) (label : String)
  /-- Click the entry field, select all and type a text. -/
  | fillEntry (text : Text)
  /-- Click the amount field, select all and type a text. -/
  | fillAmount (text : Text)
  /-- Type a text behind the content of the field that has the focus. -/
  | type (text : Text)
  | backspace
  | enter
  | escape
deriving DecidableEq, Repr

/-- A button on the screen. -/
structure Button where
  label : String
  command : Command
deriving DecidableEq, Repr

/-- What is shown, and which field has the focus. -/
structure Screen where
  app : App
  focus : Option Field
deriving DecidableEq, Repr

/-- What a gesture means. -/
structure Reaction where
  /-- What the gesture aims at is on the screen. -/
  done : Bool
  focus : Option Field
  command : Option Command
deriving DecidableEq, Repr

namespace App

/-- The buttons of the bar at the top. -/
def barButtons (a : App) : List Button :=
  [⟨"Calc", .showTab .calculator⟩, ⟨"Conv", .showTab .converter⟩,
   ⟨if a.dark then "☀" else "🌙", .toggleTheme⟩] ++
    match a.tab with
    | .calculator => [⟨"Historique", .setPanel !a.panelOpen⟩]
    | .converter => []

/-- The button that empties the history, if there is anything to forget. -/
def forgetButtons (a : App) : List Button :=
  if a.calculator.history.entries.isEmpty then [] else [⟨"🗑", .clearHistory⟩]

/-- The buttons of the history panel. -/
def panelButtons (a : App) : List Button :=
  if a.panelOpen then ⟨"✖", .setPanel false⟩ :: a.forgetButtons else []

/-- The buttons of the tab shown, keys left out. -/
def tabButtons (a : App) : List Button :=
  match a.tab with
  | .calculator => []
  | .converter => Category.all.map fun c => ⟨c.label, .chooseCategory c⟩

/-- All buttons on the screen, keys left out. -/
def buttons (a : App) : List Button := a.barButtons ++ a.panelButtons ++ a.tabButtons

/-! ## What is to be read on the screen -/

/-- One entry of the history panel; the time of day is not known here. -/
def entryText (e : Entry) : String :=
  "HH:MM:SS  " ++ String.ofList e.expression ++ "\n= " ++ String.ofList e.result

/-- The texts of the history panel. -/
def panelTexts (a : App) : List String :=
  if a.panelOpen then
    ["Historique", "✖"] ++
      if a.calculator.history.entries.isEmpty then ["Aucun calcul pour l’instant"]
      else "🗑" :: a.calculator.history.entries.map entryText
  else []

/-- The texts of the calculator tab. A readout takes the place of the keypad. -/
def calculatorTexts (a : App) : List String :=
  let c := a.calculator
  let hint := if c.entry.isEmpty then ["0"] else []
  let below :=
    if c.readout.text.isEmpty then a.keypad.label :: a.keypad.keys.map Key.label
    else ["= " ++ String.ofList c.readout.text]
  hint ++ String.ofList c.entry :: below

/-- The texts of the converter tab. -/
def converterTexts (a : App) : List String :=
  let c := a.converter
  Category.all.map Category.label ++
    ["Montant :", String.ofList c.amount, c.source.label, "De", c.target.label, "Vers",
     String.ofList c.result ++ " " ++ c.target.symbol]

/-- All texts on the screen, in the order in which they are drawn. -/
def texts (a : App) : List String :=
  a.barButtons.map Button.label ++ a.panelTexts ++
    match a.tab with
    | .calculator => a.calculatorTexts
    | .converter => a.converterTexts

end App

namespace Screen

/-- Give the focus to the entry field if it is due and the field is shown. -/
def settle (s : Screen) : Screen :=
  if s.app.tab = .calculator ∧ s.app.wantsFocus = true then
    ⟨s.app.perform .dropFocus, some .entry⟩
  else s

/-- The screen that settings start. -/
def start (settings : Settings) (systemDark : Bool) : Screen :=
  settle ⟨.start settings systemDark, none⟩

/-- A gesture whose aim is not on the screen. -/
def missed (s : Screen) : Reaction := ⟨false, s.focus, none⟩

/-- A click that causes a command. -/
def clicked (command : Command) : Reaction := ⟨true, none, some command⟩

/-- The reaction to a click on one of the given aims, if there is one. -/
def clickedIf (s : Screen) : Option Command → Reaction
  | some command => clicked command
  | none => s.missed

/-- The reaction to a gesture that needs a tab. -/
def onTab (s : Screen) (tab : Tab) (r : Reaction) : Reaction :=
  if s.app.tab = tab then r else s.missed

/-- The command of the keypad's own button or of one of its keys. -/
def keyCommand? (s : Screen) (label : String) : Option Command :=
  if label = s.app.keypad.label then some .toggleKeypad
  else (s.app.keypad.key? label).map Key.command

/-- The command that takes up the entry at a position of the open panel. -/
def entryCommand? (s : Screen) (position : Nat) : Option Command :=
  if s.app.panelOpen then
    s.app.calculator.history.entries[position]?.map fun e => .reuse e.number
  else none

/-- The command that chooses a unit of the present category. -/
def unitCommand? (s : Screen) (list : UnitList) (label : String) : Option Command :=
  (s.app.converter.category.units.find? fun u => u.label == label).map fun u =>
    match list with
    | .source => .chooseSource u
    | .target => .chooseTarget u

/-- The command that replaces the text of a field. An empty entry that stays
empty is not edited. -/
def fill (s : Screen) (field : Field) (text : Text) : Option Command :=
  match field with
  | .entry =>
      if s.app.calculator.entry.isEmpty && text.isEmpty then none else some (.edit text)
  | .amount => some (.setAmount text)

/-- The text of a field. -/
def content (s : Screen) : Field → Text
  | .entry => s.app.calculator.entry
  | .amount => s.app.converter.amount

/-- What a gesture means. -/
def react (s : Screen) : Gesture → Reaction
  | .click label =>
      s.clickedIf ((s.app.buttons.find? fun b => b.label == label).map Button.command)
  | .key label => s.onTab .calculator (s.clickedIf (s.keyCommand? label))
  | .pickEntry position => s.clickedIf (s.entryCommand? position)
  | .pickUnit list label =>
      let command := s.unitCommand? list label
      s.onTab .converter ⟨command.isSome, none, command⟩
  | .fillEntry text =>
      s.onTab .calculator ⟨true, some .entry, s.fill .entry text⟩
  | .fillAmount text =>
      s.onTab .converter ⟨true, some .amount, s.fill .amount text⟩
  | .type text =>
      -- a field takes no notice of an empty text
      ⟨true, s.focus,
        if text.isEmpty then none
        else s.focus.bind fun field => s.fill field (s.content field ++ text)⟩
  | .backspace =>
      ⟨true, s.focus, s.focus.bind fun field => s.fill field (s.content field).dropLast⟩
  | .enter => ⟨true, none, if s.focus = some .entry then some .evaluate else none⟩
  | .escape => clicked .clear

/-- The screen after a gesture. -/
def step (s : Screen) (g : Gesture) : Screen :=
  let r := s.react g
  settle ⟨r.command.elim s.app s.app.perform, r.focus⟩

/-- What a gesture reports. -/
def events (s : Screen) (g : Gesture) : List Event :=
  (s.react g).command.elim [] s.app.events

/-- The screen after a run of gestures. -/
def run (s : Screen) (gestures : List Gesture) : Screen := gestures.foldl step s

end Screen

end DeskCalc
