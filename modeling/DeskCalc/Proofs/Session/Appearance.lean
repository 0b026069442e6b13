import DeskCalc.Proofs.Session.Run

/-!
# Appearance never reaches a computation

The keypad, the theme, the tab, the history panel and the focus are matters of
appearance. Two runs may differ in them from the settings on, and may choose them
anew wherever they like: as long as the other commands are the same, both compute
the same.

The relation between the two runs is `App.Alike`. The same command keeps it on both
sides, whatever the two states look like, and a command of appearance keeps it on
one side alone.

## Main results

* `App.Alike.perform`, `App.alike_perform_of_isAppearance` — what one command does to
  the relation.
* `App.Alike.run` — two runs that are equal but for appearance stay alike.
* `appearance_never_computes` — the same at every two points that correspond.
-/

namespace DeskCalc

/-- The command chooses an appearance and nothing else. -/
def Command.isAppearance : Command → Bool
  | .toggleKeypad | .toggleTheme | .showTab _ | .setPanel _ | .dropFocus => true
  | _ => false

/-- The commands of a run that choose no appearance. -/
def Command.withoutAppearance (commands : List Command) : List Command :=
  commands.filter fun command => !command.isAppearance

namespace App

/-- The two states agree in all that is computed: the entry, the readout, the history
and the places, and the amount that is converted with its units. -/
structure Alike (a b : App) : Prop where
  calculator_eq : a.calculator = b.calculator
  converter_eq : a.converter = b.converter

variable {a b c : App} {commands first second : List Command}

theorem Alike.symm (h : a.Alike b) : b.Alike a := ⟨h.calculator_eq.symm, h.converter_eq.symm⟩

theorem Alike.trans (hFirst : a.Alike b) (hSecond : b.Alike c) : a.Alike c :=
  ⟨hFirst.calculator_eq.trans hSecond.calculator_eq,
    hFirst.converter_eq.trans hSecond.converter_eq⟩

/-- The theme and the keypad of the settings are matters of appearance. -/
theorem alike_start {settings others : Settings} (h : settings.places = others.places)
    (dark otherDark : Bool) : (start settings dark).Alike (start others otherDark) where
  calculator_eq := congrArg Calculator.start h
  converter_eq := rfl

/-- **The same command keeps two states alike.** -/
theorem Alike.perform (h : a.Alike b) (command : Command) :
    (a.perform command).Alike (b.perform command) where
  calculator_eq := by rw [calculator_perform, calculator_perform, h.calculator_eq]
  converter_eq := by rw [converter_perform, converter_perform, h.converter_eq]

/-- **A command of appearance computes nothing.** -/
theorem alike_perform_of_isAppearance {command : Command} (h : command.isAppearance = true)
    (a : App) : (a.perform command).Alike a := by
  cases command with
  | toggleKeypad => exact ⟨rfl, rfl⟩
  | toggleTheme => exact ⟨rfl, rfl⟩
  | showTab tab => exact ⟨rfl, rfl⟩
  | setPanel isOpen => exact ⟨rfl, rfl⟩
  | dropFocus => exact ⟨rfl, rfl⟩
  | _ => cases h

/-- The same run keeps two states alike. -/
theorem Alike.run_same (h : a.Alike b) (commands : List Command) :
    (a.run commands).Alike (b.run commands) := by
  induction commands generalizing a b with
  | nil => exact h
  | cons command rest ih => exact ih (h.perform command)

/-- A run computes what it does without its commands of appearance. -/
theorem alike_run_withoutAppearance (a : App) (commands : List Command) :
    (a.run commands).Alike (a.run (Command.withoutAppearance commands)) := by
  induction commands generalizing a with
  | nil => exact ⟨rfl, rfl⟩
  | cons command rest ih =>
      by_cases hAppearance : command.isAppearance = true
      · have hErased : Command.withoutAppearance (command :: rest) =
            Command.withoutAppearance rest := by
          simp [Command.withoutAppearance, hAppearance]
        rw [hErased]
        exact ((alike_perform_of_isAppearance hAppearance a).run_same rest).trans (ih a)
      · have hKept : Command.withoutAppearance (command :: rest) =
            command :: Command.withoutAppearance rest := by
          simp [Command.withoutAppearance, hAppearance]
        rw [hKept]
        exact ih (a.perform command)

/-- **Two runs that are equal but for appearance** stay alike. -/
theorem Alike.run (h : a.Alike b)
    (hSame : Command.withoutAppearance first = Command.withoutAppearance second) :
    (a.run first).Alike (b.run second) := by
  have hFirst := alike_run_withoutAppearance a first
  have hSecond := alike_run_withoutAppearance b second
  rw [hSame] at hFirst
  exact (hFirst.trans (h.run_same _)).trans hSecond.symm

end App

/-- Every point of a run has a point that corresponds to it in a run that is equal but
for appearance. -/
theorem Command.exists_corresponding {first second front : List Command}
    (hSame : withoutAppearance first = withoutAppearance second) (hFront : front <+: first) :
    ∃ other, other <+: second ∧ withoutAppearance front = withoutAppearance other := by
  have hErased : withoutAppearance front <+: withoutAppearance second := by
    rw [← hSame]
    exact hFront.filter _
  exact List.prefix_filter_iff.1 hErased

/-- **Appearance never influences a computation.** Take two runs from settings with the
same number of places, whatever their theme and keypad, that are equal once the
commands of appearance are left out of both. At the end they have the same entry, the
same readout, final or not, and the same history with its numbers, expressions and
results. So they have on the way: each point of the one run corresponds to some point
of the other, and at any two points up to which the runs are equal but for appearance
they agree. -/
theorem appearance_never_computes {settings others : Settings}
    (hPlaces : settings.places = others.places) (dark otherDark : Bool)
    {first second : List Command}
    (hSame : Command.withoutAppearance first = Command.withoutAppearance second) :
    let a := App.start settings dark
    let b := App.start others otherDark
    (a.run first).Alike (b.run second) ∧
    ∀ front, front <+: first →
      (∃ other, other <+: second ∧
        Command.withoutAppearance front = Command.withoutAppearance other) ∧
      ∀ other, other <+: second →
        Command.withoutAppearance front = Command.withoutAppearance other →
        (a.run front).Alike (b.run other) := by
  intro a b
  have hStart : a.Alike b := App.alike_start hPlaces dark otherDark
  refine ⟨hStart.run hSame, ?_⟩
  intro front hFront
  refine ⟨Command.exists_corresponding hSame hFront, ?_⟩
  intro other _ hUpTo
  exact hStart.run hUpTo

/-- A third with two places, in the dark with the panel open and in the light with the
other keypad, and taken up again from the history. -/
theorem appearance_never_computes_third :
    let settings : Settings := ⟨2, some true, false⟩
    let others : Settings := ⟨2, none, true⟩
    let front : List Command := [.toggleTheme, .press "1÷3".toList, .setPanel true, .evaluate]
    let other : List Command := [.press "1÷3".toList, .toggleKeypad, .evaluate, .dropFocus]
    let first := front ++ [.dropFocus, .reuse 0]
    let second := other ++ [.reuse 0, .toggleKeypad]
    settings.places = others.places ∧
      Command.withoutAppearance first = Command.withoutAppearance second ∧
      (front <+: first ∧ other <+: second ∧
        Command.withoutAppearance front = Command.withoutAppearance other) ∧
      ((App.start others false).run other).calculator.history.entries =
        [⟨0, "1÷3".toList, "0.33".toList⟩] ∧
      ((App.start others false).run second).calculator.entry = "0.33".toList := by
  intro settings others front other first second
  have hPlaces : settings.places = others.places := rfl
  have hSame : Command.withoutAppearance first = Command.withoutAppearance second := rfl
  have hFront : front <+: first := List.prefix_append _ _
  have hOther : other <+: second := List.prefix_append _ _
  have hUpTo : Command.withoutAppearance front = Command.withoutAppearance other := rfl
  obtain ⟨hEnd, hPoints⟩ := appearance_never_computes hPlaces true false hSame
  have hListed : ((App.start settings true).run front).calculator.history.entries =
      [⟨0, "1÷3".toList, "0.33".toList⟩] := by decide +kernel
  have hEntry : ((App.start settings true).run first).calculator.entry = "0.33".toList := by
    decide +kernel
  refine ⟨hPlaces, hSame, ⟨hFront, hOther, hUpTo⟩, ?_, ?_⟩
  · rw [← ((hPoints front hFront).2 other hOther hUpTo).calculator_eq]
    exact hListed
  · rw [← hEnd.calculator_eq]
    exact hEntry

end DeskCalc
