import DeskCalc.Proofs.Session.Run

/-!
# The value shown belongs to the entry

A readout that is final is taken for the value of the entry: the next key goes
on from it. So it matters that no path leaves the mark on a value beside an
entry that has changed since, and that nothing is ever shown as a result that
no evaluation returned.

The invariant speaks of the texts returned so far. A command either keeps
readout and entry together, takes the mark away, or has just evaluated the
entry.

## Main results

* `Calculator.Faithful.run` — the invariant along a run.
* `readout_faithful` — the readout at every moment, by commands and by
  gestures.
* `App.Reachable.evaluate_of_final` — a final value is that of the entry.
-/

namespace DeskCalc

namespace Calculator

/-- What is shown is accounted for, given the texts that evaluations have
returned. -/
structure Faithful (returned : List Text) (c : Calculator) : Prop where
  /-- A final value is the value of the entry beside it. -/
  final : c.readout.isFinal = true →
    Display.evaluate c.entry.trim c.places = .ok c.readout.text
  /-- Only returned texts are shown, besides the mark of a failure. -/
  shown : c.readout.text = [] ∨ c.readout.text = Readout.failureMark ∨
    c.readout.text ∈ returned

theorem faithful_start (places : Nat) : (start places).Faithful [] where
  final h := by contradiction
  shown := .inl rfl

/-- One command: what it returns is added to what has been returned. -/
theorem Faithful.perform {earlier : List Text} {c : Calculator} (h : c.Faithful earlier)
    (command : Command) :
    (c.perform command).Faithful (earlier ++ (c.answer? command).toList) := by
  have hShown : ∀ {text}, text = c.readout.text → text = [] ∨ text = Readout.failureMark ∨
      text ∈ earlier ++ (c.answer? command).toList := by
    rintro text rfl
    rcases h.shown with hEmpty | hFailure | hEarlier
    · exact .inl hEmpty
    · exact .inr (.inl hFailure)
    · exact .inr (.inr (List.mem_append_left _ hEarlier))
  rcases c.readout_perform command with
    ⟨hReadout, hEntry⟩ | ⟨hDetached, hText⟩ | ⟨shown, hAnswer, hReadout, hEntry, hValue⟩
  · -- Nothing moved, so the old value still stands beside its entry.
    constructor
    · intro hFinal
      rw [hReadout] at hFinal ⊢
      rw [hEntry, places_perform]
      exact h.final hFinal
    · exact hShown (by rw [hReadout])
  · constructor
    · intro hFinal
      rw [hDetached] at hFinal
      contradiction
    · rcases hText with hEmpty | hFailure | hSame
      · exact .inl hEmpty
      · exact .inr (.inl hFailure)
      · exact hShown hSame
  · constructor
    · intro _
      rw [hReadout, hEntry, places_perform]
      exact hValue
    · right; right
      rw [hReadout, hAnswer]
      exact List.mem_append_right _ (List.mem_singleton_self shown)

/-- **The invariant along a run.** -/
theorem Faithful.run {earlier : List Text} {c : Calculator} (h : c.Faithful earlier)
    (commands : List Command) : (c.run commands).Faithful (earlier ++ c.returned commands) := by
  induction commands generalizing earlier c with
  | nil =>
      show c.Faithful (earlier ++ [])
      rw [List.append_nil]
      exact h
  | cons command rest ih =>
      show ((c.perform command).run rest).Faithful
        (earlier ++ ((c.answer? command).toList ++ (c.perform command).returned rest))
      rw [← List.append_assoc]
      exact ih (h.perform command)

/-- The invariant along a run from the beginning. -/
theorem faithful_run_start (places : Nat) (commands : List Command) :
    ((start places).run commands).Faithful ((start places).returned commands) := by
  have h := (faithful_start places).run commands
  rwa [List.nil_append] at h

end Calculator

namespace App

theorem faithful_run (settings : Settings) (systemDark : Bool) (commands : List Command) :
    ((start settings systemDark).run commands).calculator.Faithful
      ((start settings systemDark).calculator.returned commands) := by
  rw [calculator_run]
  exact Calculator.faithful_run_start settings.places commands

/-- A final value is that of the entry, in every state within reach. -/
theorem Reachable.evaluate_of_final {a : App} (h : a.Reachable) {shown : Text}
    (hFinal : a.calculator.readout = .value shown true) :
    Display.evaluate a.calculator.entry.trim a.calculator.places = .ok shown := by
  obtain ⟨settings, systemDark, commands, rfl⟩ := h
  have hValue := (faithful_run settings systemDark commands).final
  rw [hFinal] at hValue
  exact hValue rfl

end App

/-- **What the readout shows, at every moment of every run.** A final value is
the value of the entry beside it; and only texts that evaluations of this run
have returned are shown, besides nothing and the mark of a failure. Both hold of
runs through commands and of runs through gestures. -/
theorem readout_faithful (settings : Settings) (systemDark : Bool) :
    (∀ commands : List Command,
      let a := App.start settings systemDark
      (a.run commands).calculator.Faithful (a.calculator.returned commands)) ∧
    (∀ gestures : List Gesture,
      let s := Screen.start settings systemDark
      (s.run gestures).app.calculator.Faithful
        (s.app.calculator.returned (s.commands gestures))) := by
  constructor
  · exact App.faithful_run settings systemDark
  · intro gestures s
    rw [Screen.calculator_run]
    exact Calculator.faithful_run_start settings.places (s.commands gestures)

-- A value that has been returned stays in view while the entry is edited.
example :
    ((App.start .default false).run
      [.edit "1+1".toList, .evaluate, .edit "1+12".toList]).calculator.readout =
      .value "2".toList false := by
  decide +kernel

end DeskCalc
