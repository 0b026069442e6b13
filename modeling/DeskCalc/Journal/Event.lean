import DeskCalc.Expr.Display
import DeskCalc.Settings
import DeskCalc.Text.Quoted

/-!
# The events of the journal

An event is something that the program reports while it runs. It belongs to a
part of the program, its target, has a level, and carries a message and named
data. `Event.line` is the line that the journal writes for it.
-/

namespace DeskCalc

/-- How much an event matters, the most important first. -/
inductive Level where
  | error | warn | info | debug | trace
deriving DecidableEq, Repr

namespace Level

/-- The name of a level in a journal line. -/
def name : Level → String
  | .error => "ERROR"
  | .warn => "WARN"
  | .info => "INFO"
  | .debug => "DEBUG"
  | .trace => "TRACE"

/-- Levels in order of detail, from one. -/
def detail : Level → Nat
  | .error => 1
  | .warn => 2
  | .info => 3
  | .debug => 4
  | .trace => 5

end Level

/-- What the program reports. -/
inductive Event where
  /-- The settings directory holds no settings file. -/
  | settingsMissing
  /-- The system has no directory for settings. -/
  | settingsDirectoryMissing
  /-- The settings file has been read. -/
  | settingsLoaded
  /-- The settings file is not valid and does not count. -/
  | settingsIgnored
  /-- The program starts with these settings. -/
  | started (places : Nat) (scientific : Bool)
  /-- An expression has been put in evaluation order. -/
  | analysed (rpn : List Token)
  /-- An expression has no value. -/
  | refused (expression : Text) (error : CalcError)
  /-- A result has entered the history. -/
  | recorded (number : Nat) (result : Text)
  /-- The history has been emptied of this many entries. -/
  | historyCleared (count : Nat)
deriving DecidableEq, Repr

namespace Event

/-- The root of all targets. -/
def root : String := "calculatrice_scientifique"

/-- Where the settings file is looked for. -/
def settingsPath : String := "<config_dir>/calculatrice/config.toml"

/-- How much the event matters. -/
def level : Event → Level
  | .settingsMissing => .debug
  | .settingsDirectoryMissing => .debug
  | .settingsLoaded => .info
  | .settingsIgnored => .warn
  | .started _ _ => .info
  | .analysed _ => .debug
  | .refused _ _ => .debug
  | .recorded _ _ => .debug
  | .historyCleared _ => .info

/-- The part of the program that the event belongs to. -/
def target : Event → String
  | .settingsMissing => root ++ "::config"
  | .settingsDirectoryMissing => root ++ "::config"
  | .settingsLoaded => root ++ "::config"
  | .settingsIgnored => root ++ "::config"
  | .started _ _ => root
  | .analysed _ => root ++ "::noyau::eval"
  | .refused _ _ => root ++ "::noyau::eval"
  | .recorded _ _ => root ++ "::app::etat"
  | .historyCleared _ => root ++ "::app::etat"

/-- The digits of a number. -/
def number (n : Nat) : String := String.ofList (Digits.write n)

/-- What is said about the event. -/
def message : Event → String
  | .settingsMissing => "config.toml absent, défauts utilisés"
  | .settingsDirectoryMissing => "pas de dossier de configuration, défauts utilisés"
  | .settingsLoaded => "configuration chargée"
  | .settingsIgnored => "configuration ignorée"
  | .started _ _ => "démarrage"
  | .analysed _ => "expression analysée"
  | .refused _ _ => "évaluation refusée"
  | .recorded _ _ => "ajouté à l'historique"
  | .historyCleared _ => "historique vidé"

/-- The named data that the journal writes with the event. -/
def details : Event → List (String × String)
  | .settingsMissing => [("chemin", settingsPath)]
  | .settingsDirectoryMissing => []
  | .settingsLoaded => [("chemin", settingsPath)]
  | .settingsIgnored => [("chemin", settingsPath)]
  | .started places scientific =>
      [("decimales", number places), ("scientifique", if scientific then "true" else "false")]
  | .analysed rpn => [("rpn", String.ofList (Token.writeAll rpn))]
  | .refused expression error =>
      [("expression", String.ofList (Quoted.write expression)), ("erreur", error.message)]
  | .recorded n result => [("id", number n), ("resultat", String.ofList result)]
  | .historyCleared count => [("entrees", number count)]

/-- The names of everything that an event carries. The reason why settings are
ignored is carried without being written. -/
def fieldNames (e : Event) : List String :=
  "message" :: e.details.map Prod.fst ++
    match e with
    | .settingsIgnored => ["erreur"]
    | _ => []

/-- The line of the journal. -/
def line (e : Event) : String :=
  e.level.name ++ " " ++ e.target ++ ": " ++ e.message ++
    String.join (e.details.map fun (name, value) => " " ++ name ++ "=" ++ value)

end Event

/-- What looking for the settings file reports. -/
def SettingsFile.event : SettingsFile → Event
  | .noDirectory => .settingsDirectoryMissing
  | .missing => .settingsMissing
  | .contents bytes =>
      if (Settings.ofBytes? bytes).isSome then .settingsLoaded else .settingsIgnored

end DeskCalc
