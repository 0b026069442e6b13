import DeskCalc.Proofs.Expr.Refusal
import DeskCalc.Proofs.Session.Run

/-!
# The places of a run

The number of places is chosen before the first key is pressed and no command
touches it. So there is one number for all that a run shows: the value of the next
evaluation, the text below the entry, whose evaluation may be long past, and every
result in the history.

## Main results

* `Calculator.Formats` — all results are shown with so many places.
* `Calculator.Formats.perform`, `Calculator.formats_run_start` — it holds along
  every run.
-/

namespace DeskCalc.Calculator

/-- Every result is shown with that many places. -/
structure Formats (places : Nat) (c : Calculator) : Prop where
  places_eq : c.places = places
  /-- The next evaluation shows the value of the entry, if it has one, and records
  what it shows. -/
  next : ∀ x, DeskCalc.evaluate c.entry.trim = .ok x → ∃ shown,
    Display.write x places = .ok shown ∧ c.evaluate.readout = .value shown true ∧
      c.evaluate.history = c.history.record c.entry.trim shown
  /-- Besides nothing and the mark of a failure only values are shown. -/
  readout : c.readout.text = [] ∨ c.readout.text = Readout.failureMark ∨
    ∃ s, Display.evaluate s places = .ok c.readout.text
  /-- The results listed are those of their expressions. -/
  listed : ∀ e ∈ c.history.entries, Display.evaluate e.expression places = .ok e.result

/-- An entry with a value is evaluated to it. -/
theorem exists_shown (c : Calculator) {x : Binary64}
    (hValue : DeskCalc.evaluate c.entry.trim = .ok x) :
    ∃ shown, Display.write x c.places = .ok shown ∧ c.evaluate.readout = .value shown true ∧
      c.evaluate.history = c.history.record c.entry.trim shown := by
  obtain ⟨negative, m, hWrite⟩ := Display.exists_write_eq (isFinite_of_evaluate hValue) c.places
  have hBlank : c.isBlank = false := by
    by_contra hNot
    have hEmpty : DeskCalc.evaluate c.entry.trim = .error .emptyInput := by
      rw [evaluate_trim, evaluate_eq_emptyInput_iff]
      exact isBlank_iff.1 (Bool.eq_true_of_not_eq_false hNot)
    rw [hEmpty] at hValue
    cases hValue
  have hShown : Display.evaluate c.entry.trim c.places = .ok (Binary64.finite negative m).text := by
    rw [Display.evaluate, hValue]
    exact hWrite
  refine ⟨_, hWrite, ?_⟩
  rw [evaluate_eq_of_ok hBlank hShown]
  exact ⟨rfl, rfl⟩

theorem formats_start (places : Nat) : (start places).Formats places where
  places_eq := rfl
  next _ hValue := exists_shown (start places) hValue
  readout := .inl rfl
  listed _ he := by cases he

/-- **One command** changes neither the places nor what has been shown with them,
and what it adds is shown with them too. -/
theorem Formats.perform {places : Nat} {c : Calculator} (h : c.Formats places)
    (command : Command) : (c.perform command).Formats places where
  places_eq := by rw [places_perform, h.places_eq]
  next x hValue := by
    have hNext := exists_shown _ hValue
    rwa [places_perform, h.places_eq] at hNext
  readout := by
    rcases c.readout_perform command with
      ⟨hSame, -⟩ | ⟨-, hEmpty | hFailure | hSame⟩ | ⟨shown, -, hNew, -, hValue⟩
    · rw [hSame]
      exact h.readout
    · exact .inl hEmpty
    · exact .inr (.inl hFailure)
    · rw [hSame]
      exact h.readout
    · rw [hNew]
      rw [h.places_eq] at hValue
      exact .inr (.inr ⟨c.entry.trim, hValue⟩)
  listed := by
    apply forall_listed_perform h.listed
    intro shown _ hShown
    rwa [h.places_eq] at hShown

/-- **All along a run** results are shown with the places that it started with. -/
theorem formats_run_start (places : Nat) (commands : List Command) :
    ((start places).run commands).Formats places :=
  run_preserves (P := Formats places) (fun _ command h => h.perform command) (formats_start places)
    commands

end DeskCalc.Calculator
