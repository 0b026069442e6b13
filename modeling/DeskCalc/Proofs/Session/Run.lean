import DeskCalc.Proofs.Session.Gesture

/-!
# Runs

The program runs through commands or, at the screen, through gestures. To the
calculator both are a list of commands, so what is proved about the runs of a
calculator holds for either.

## Main results

* `Calculator.run_preserves`, `Screen.run_preserves` — what every step keeps, a
  run keeps.
* `App.calculator_run`, `Screen.calculator_run` — the calculator's share of a
  run.
* `Screen.settled_run`, `Screen.reachable_run` — what the screen comes to is
  settled, and within reach of commands alone.
-/

namespace DeskCalc

namespace Calculator

/-- The calculator after a run of commands. -/
def run (c : Calculator) (commands : List Command) : Calculator := commands.foldl perform c

/-- The texts that the successful evaluations of a run return, in order. -/
def returned (c : Calculator) : List Command → List Text
  | [] => []
  | command :: rest => (c.answer? command).toList ++ (c.perform command).returned rest

theorem run_append (c : Calculator) (first second : List Command) :
    c.run (first ++ second) = (c.run first).run second :=
  List.foldl_append

/-- **What every command keeps, a run keeps.** -/
theorem run_preserves {P : Calculator → Prop}
    (hStep : ∀ c command, P c → P (c.perform command)) {c : Calculator} (hStart : P c)
    (commands : List Command) : P (c.run commands) := by
  induction commands generalizing c with
  | nil => exact hStart
  | cons command rest ih => exact ih (hStep c command hStart)

end Calculator

namespace App

/-- The state after a run of commands. -/
def run (a : App) (commands : List Command) : App := commands.foldl perform a

theorem run_append (a : App) (first second : List Command) :
    a.run (first ++ second) = (a.run first).run second :=
  List.foldl_append

/-- **The calculator runs by itself.** -/
theorem calculator_run (a : App) (commands : List Command) :
    (a.run commands).calculator = a.calculator.run commands := by
  induction commands generalizing a with
  | nil => rfl
  | cons command rest ih =>
      show ((a.perform command).run rest).calculator = (a.calculator.perform command).run rest
      rw [ih, calculator_perform]

/-- The state comes of some settings by some run of commands. -/
def Reachable (a : App) : Prop :=
  ∃ settings systemDark commands, a = (start settings systemDark).run commands

theorem reachable_start (settings : Settings) (systemDark : Bool) :
    (start settings systemDark).Reachable :=
  ⟨settings, systemDark, [], rfl⟩

theorem Reachable.perform {a : App} (h : a.Reachable) (command : Command) :
    (a.perform command).Reachable := by
  obtain ⟨settings, systemDark, commands, rfl⟩ := h
  exact ⟨settings, systemDark, commands ++ [command], (run_append _ commands [command]).symm⟩

end App

namespace Screen

/-- The commands that a run of gestures causes. -/
def commands (s : Screen) : List Gesture → List Command
  | [] => []
  | g :: rest => (s.react g).command.toList ++ (s.step g).commands rest

/-- **A run of gestures is to the calculator the run of their commands.** -/
theorem calculator_run (s : Screen) (gestures : List Gesture) :
    (s.run gestures).app.calculator = s.app.calculator.run (s.commands gestures) := by
  induction gestures generalizing s with
  | nil => rfl
  | cons g rest ih =>
      show ((s.step g).run rest).app.calculator =
        s.app.calculator.run ((s.react g).command.toList ++ (s.step g).commands rest)
      rw [ih, calculator_step, Calculator.run_append]
      cases (s.react g).command with
      | none => rfl
      | some command => rfl

theorem run_append (s : Screen) (first second : List Gesture) :
    s.run (first ++ second) = (s.run first).run second :=
  List.foldl_append

/-- **What every gesture keeps, a run keeps.** -/
theorem run_preserves {P : Screen → Prop} (hStep : ∀ s g, P s → P (s.step g)) {s : Screen}
    (hStart : P s) (gestures : List Gesture) : P (s.run gestures) := by
  induction gestures generalizing s with
  | nil => exact hStart
  | cons g rest ih => exact ih (hStep s g hStart)

/-- The screen is settled at every moment of a run. -/
theorem settled_run {s : Screen} (h : s.Settled) (gestures : List Gesture) :
    (s.run gestures).Settled :=
  run_preserves (P := Settled) (fun s g _ => s.settled_step g) h gestures

theorem reachable_step {s : Screen} (h : s.app.Reachable) (g : Gesture) :
    (s.step g).app.Reachable := by
  have hApplied : (s.applied g).Reachable := by
    unfold applied
    cases (s.react g).command with
    | none => exact h
    | some command => exact h.perform command
  rcases s.app_step g with hStep | hStep
  · rw [hStep]
    exact hApplied
  · rw [hStep]
    exact hApplied.perform .dropFocus

/-- **Gestures lead to no state that commands do not lead to.** -/
theorem reachable_run (settings : Settings) (systemDark : Bool) (gestures : List Gesture) :
    ((start settings systemDark).run gestures).app.Reachable := by
  have hStart : (start settings systemDark).app.Reachable :=
    (App.reachable_start settings systemDark).perform .dropFocus
  exact run_preserves (P := fun s => s.app.Reachable) (fun _ g h => reachable_step h g) hStart
    gestures

end Screen

end DeskCalc
