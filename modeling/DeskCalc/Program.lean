import DeskCalc.Journal.Filter
import DeskCalc.Session.Screen

/-!
# The whole program

The program looks for its settings, opens one window and then takes gestures
until it is closed. A run is what can be seen of that: the texts on the screen
at the start and after each gesture, and the events reported.
-/

namespace DeskCalc

/-- What can be seen of the screen after a gesture. -/
structure Frame where
  /-- The gesture found what it aimed at. -/
  done : Bool
  texts : List String
deriving DecidableEq, Repr

namespace Program

/-- The title of the program and of its window. -/
def title : String := "Calculatrice"

/-- The width and the height that the window opens with. -/
def windowSize : Nat × Nat := (420, 680)

/-- The least width and height of the window. -/
def leastWindowSize : Nat × Nat := (340, 560)

/-- The exit code after the window has been closed. -/
def exitCode : Nat := 0

/-- The first screen. A theme that the settings do not choose is dark. -/
def firstScreen (file : SettingsFile) : Screen := .start (Settings.load file) true

/-- What the program reports before the first gesture. -/
def startEvents (file : SettingsFile) : List Event :=
  let settings := Settings.load file
  [file.event, .started settings.places settings.scientific]

/-- The frames of a run of gestures from a screen on. -/
def framesFrom (s : Screen) : List Gesture → List Frame
  | [] => []
  | g :: rest =>
      ⟨(s.react g).done, (s.step g).app.texts⟩ :: framesFrom (s.step g) rest

/-- The events of a run of gestures from a screen on. -/
def eventsFrom (s : Screen) : List Gesture → List Event
  | [] => []
  | g :: rest => s.events g ++ eventsFrom (s.step g) rest

/-- The frames of a whole run, the start included. -/
def frames (file : SettingsFile) (gestures : List Gesture) : List Frame :=
  let first := firstScreen file
  ⟨true, first.app.texts⟩ :: framesFrom first gestures

/-- The events of a whole run in order. -/
def events (file : SettingsFile) (gestures : List Gesture) : List Event :=
  startEvents file ++ eventsFrom (firstScreen file) gestures

/-- The lines of the journal of a whole run. -/
def journal (file : SettingsFile) (request : Option Text) (gestures : List Gesture) :
    List String :=
  (Filter.ofRequest request).lines (events file gestures)

end Program

end DeskCalc
