import DeskCalc.Expr.Display
import DeskCalc.Settings.Document

/-!
# Settings

The program starts from a settings file that may be missing. A file counts as a
whole: one fault anywhere in it, and the program starts from the defaults.
-/

namespace DeskCalc

/-- What the settings file decides. -/
structure Settings where
  /-- The decimal places shown of a result. -/
  places : Nat
  /-- The dark theme or the light one; the system decides if nothing is said. -/
  dark? : Option Bool
  /-- Start with the scientific keypad. -/
  scientific : Bool
deriving DecidableEq, Repr

/-- What there is of a settings file. -/
inductive SettingsFile where
  /-- The system has no directory for settings. -/
  | noDirectory
  /-- The directory holds no settings file. -/
  | missing
  /-- The file holds these bytes. -/
  | contents (bytes : ByteArray)

namespace Settings

/-- The settings of a file that says nothing. -/
def default : Settings := ⟨Display.defaultPlaces, none, false⟩

/-- The key of the number of places. -/
def placesKey : Text := "decimales".toList

/-- The key of the theme. -/
def darkKey : Text := "mode_sombre".toList

/-- The key of the keypad. -/
def scientificKey : Text := "mode_scientifique".toList

/-- Carry out one assignment, if it is one of a known key to a value that the
key may have. A number of places beyond what can be shown is cut. -/
def assign (s : Settings) : Text × Scalar → Option Settings
  | (key, .integer n) =>
      if key = placesKey ∧ 0 ≤ n ∧ n < 2 ^ 64 then
        some { s with places := min n.toNat Display.maxPlaces }
      else none
  | (key, .boolean b) =>
      if key = darkKey then some { s with dark? := some b }
      else if key = scientificKey then some { s with scientific := b }
      else none

/-- The settings of a document. -/
def read? (s : Text) : Option Settings := do
  (← Document.read? s).foldlM assign default

/-- The settings of a file's bytes, which have to be UTF-8. -/
def ofBytes? (bytes : ByteArray) : Option Settings := do
  read? (← String.fromUTF8? bytes).toList

/-- The settings that the program starts from. -/
def load : SettingsFile → Settings
  | .noDirectory => default
  | .missing => default
  | .contents bytes => (ofBytes? bytes).getD default

end Settings

end DeskCalc
