import DeskCalc.Proofs.Session.Run

/-!
# What is recorded

An entry of the history stands for one evaluation that succeeded, with a number
that no other evaluation of the run has. So the list may only change in two
ways: a success puts its entry in front, and clearing empties it. An evaluation
that fails leaves everything but the readout, one of a blank entry leaves
everything.

Numbers carry the argument. They stay below the next one to be given, which
never falls, so what is listed later is either listed now or has a number that
is not given yet.

## Main results

* `Calculator.exists_new_entry_iff` — when an entry is added.
* `History.Precedes`, `Calculator.precedes_run` — how the history of a moment
  relates to that of any later one.
* `history_recorded` — the recording of whole runs, by commands and by gestures.
-/

namespace DeskCalc

namespace History

/-- Two entries of one number are the same entry. -/
theorem WellNumbered.eq_of_number {h : History} (hWell : h.WellNumbered) {e e' : Entry}
    (he : e ∈ h.entries) (he' : e' ∈ h.entries) (hNumber : e'.number = e.number) : e' = e := by
  have hFind : h.find? e.number = some e := hWell.find?_eq_some_iff.2 ⟨he, rfl⟩
  have hFind' : h.find? e.number = some e' := hWell.find?_eq_some_iff.2 ⟨he', hNumber⟩
  exact Option.some.inj (hFind'.symm.trans hFind)

/-- The second history can come of the first: its entries are listed already or
are numbered from then on. -/
structure Precedes (earlier later : History) : Prop where
  next_le : earlier.next ≤ later.next
  listed : ∀ e ∈ later.entries, e ∈ earlier.entries ∨ earlier.next ≤ e.number

theorem Precedes.refl (h : History) : h.Precedes h where
  next_le := Nat.le_refl _
  listed _ he := .inl he

theorem Precedes.trans {a b c : History} (hab : a.Precedes b) (hbc : b.Precedes c) :
    a.Precedes c where
  next_le := Nat.le_trans hab.next_le hbc.next_le
  listed e he := by
    rcases hbc.listed e he with hMem | hNew
    · exact hab.listed e hMem
    · exact .inr (Nat.le_trans hab.next_le hNew)

theorem precedes_clear (h : History) : h.Precedes h.clear where
  next_le := Nat.le_refl _
  listed e he := by simp [clear] at he

theorem precedes_record (h : History) (expression result : Text) :
    h.Precedes (h.record expression result) where
  next_le := Nat.le_succ _
  listed e he := by
    rcases List.mem_cons.1 (List.mem_of_mem_take he) with rfl | hOld
    · exact .inr (Nat.le_refl _)
    · exact .inl hOld

/-- What a user may rely on between two moments of a run. -/
structure Consistent (earlier later : History) : Prop where
  /-- A number that has been given is not given again. -/
  fresh : ∀ e ∈ earlier.entries, e.number < later.next
  /-- What is listed under a number stays as it was. -/
  unaltered : ∀ e ∈ earlier.entries, ∀ e' ∈ later.entries, e'.number = e.number → e' = e

theorem WellNumbered.consistent {earlier later : History} (hWell : earlier.WellNumbered)
    (h : earlier.Precedes later) : earlier.Consistent later where
  fresh e he := Nat.lt_of_lt_of_le (hWell.2 e he) h.next_le
  unaltered e he e' he' hNumber := by
    rcases h.listed e' he' with hListed | hNew
    · exact hWell.eq_of_number he hListed hNumber
    · have hBelow : e.number < earlier.next := hWell.2 e he
      omega

end History

namespace Calculator

theorem wellNumbered_perform {c : Calculator} (hWell : c.history.WellNumbered)
    (command : Command) : (c.perform command).history.WellNumbered := by
  rcases c.history_perform command with h | h | ⟨-, -, shown, -, h⟩
  · rw [h]
    exact hWell
  · rw [h]
    exact c.history.wellNumbered_clear
  · rw [h]
    exact hWell.record _ shown

theorem precedes_perform (c : Calculator) (command : Command) :
    c.history.Precedes (c.perform command).history := by
  rcases c.history_perform command with h | h | ⟨-, -, shown, -, h⟩
  · rw [h]
    exact .refl _
  · rw [h]
    exact c.history.precedes_clear
  · rw [h]
    exact c.history.precedes_record _ shown

theorem wellNumbered_run_start (places : Nat) (commands : List Command) :
    ((start places).run commands).history.WellNumbered :=
  run_preserves (P := fun c => c.history.WellNumbered)
    (fun _ command hWell => wellNumbered_perform hWell command)
    History.wellNumbered_empty commands

theorem precedes_run (c : Calculator) (commands : List Command) :
    c.history.Precedes (c.run commands).history :=
  run_preserves (P := fun d => c.history.Precedes d.history)
    (fun d command h => h.trans (d.precedes_perform command))
    (.refl _) commands

/-- The history of one moment of a run and that of a later one. -/
theorem consistent_run_start (places : Nat) (earlier later : List Command) :
    ((start places).run earlier).history.Consistent
      (((start places).run earlier).run later).history :=
  (wellNumbered_run_start places earlier).consistent (precedes_run _ later)

theorem history_evaluate {c : Calculator} {shown : Text}
    (hText : ∃ x ∈ c.entry, Text.isBlank x = false)
    (hShown : Display.evaluate c.entry.trim c.places = .ok shown) :
    c.evaluate.history = c.history.record c.entry.trim shown := by
  rw [evaluate_eq_of_ok (isBlank_eq_false_iff.2 hText) hShown]

/-- **An entry is added exactly by an evaluation that succeeds.** -/
theorem exists_new_entry_iff {c : Calculator} (hWell : c.history.WellNumbered)
    {command : Command} :
    (∃ e ∈ (c.perform command).history.entries, e ∉ c.history.entries) ↔
      command = .evaluate ∧ (∃ x ∈ c.entry, Text.isBlank x = false) ∧
        ∃ shown, Display.evaluate c.entry.trim c.places = .ok shown := by
  constructor
  · rintro ⟨e, hNew, hOld⟩
    rcases c.history_perform command with h | h | ⟨hCommand, hBlank, shown, hShown, -⟩
    · rw [h] at hNew
      contradiction
    · rw [h] at hNew
      simp [History.clear] at hNew
    · exact ⟨hCommand, isBlank_eq_false_iff.1 hBlank, shown, hShown⟩
  · rintro ⟨rfl, hText, shown, hShown⟩
    refine ⟨⟨c.history.next, c.entry.trim, shown⟩, ?_, ?_⟩
    · show _ ∈ c.evaluate.history.entries
      rw [history_evaluate hText hShown]
      exact List.mem_cons_self
    · intro hListed
      exact absurd (hWell.2 _ hListed) (Nat.lt_irrefl _)

end Calculator

/-- What a step does to the history, if `evaluates` says whether it evaluates
the entry. -/
structure App.Records (evaluates : Prop) (before after : App) : Prop where
  /-- An entry is added exactly by an evaluation that succeeds. -/
  added_iff :
    (∃ e ∈ after.calculator.history.entries, e ∉ before.calculator.history.entries) ↔
      evaluates ∧ (∃ x ∈ before.calculator.entry, Text.isBlank x = false) ∧
        ∃ shown, Display.evaluate before.calculator.entry.trim before.calculator.places = .ok shown
  /-- Then one entry is put in front, under the next number. -/
  succeeded : ∀ shown, evaluates → (∃ x ∈ before.calculator.entry, Text.isBlank x = false) →
    Display.evaluate before.calculator.entry.trim before.calculator.places = .ok shown →
      after.calculator.history.entries =
        (⟨before.calculator.history.next, before.calculator.entry.trim, shown⟩ ::
          before.calculator.history.entries).take History.limit ∧
      after.calculator.history.next = before.calculator.history.next + 1
  /-- A failure is shown, and nothing else changes but the wish for the focus. -/
  failed : ∀ error, evaluates → (∃ x ∈ before.calculator.entry, Text.isBlank x = false) →
    Display.evaluate before.calculator.entry.trim before.calculator.places = .error error →
      ∃ wantsFocus, after =
        { before with calculator := { before.calculator with readout := .failure }, wantsFocus }
  /-- Of a blank entry nothing comes. -/
  blank : evaluates → (∀ x ∈ before.calculator.entry, Text.isBlank x = true) → after = before

namespace App

theorem perform_evaluate_of_error {a : App} {error : CalcError}
    (hText : ∃ x ∈ a.calculator.entry, Text.isBlank x = false)
    (h : Display.evaluate a.calculator.entry.trim a.calculator.places = .error error) :
    a.perform .evaluate =
      { a with
        calculator := { a.calculator with readout := .failure }
        wantsFocus := a.wantsFocus || !a.calculator.isBlank } := by
  unfold perform
  rw [Calculator.evaluate_eq_of_error (Calculator.isBlank_eq_false_iff.2 hText) h]

theorem perform_evaluate_of_blank {a : App}
    (h : ∀ x ∈ a.calculator.entry, Text.isBlank x = true) : a.perform .evaluate = a := by
  have hBlank : a.calculator.isBlank = true := Calculator.isBlank_iff.2 h
  unfold perform
  rw [Calculator.evaluate_of_isBlank hBlank, hBlank, Bool.not_true, Bool.or_false]

theorem records_perform {a : App} (hWell : a.calculator.history.WellNumbered)
    (command : Command) : Records (command = .evaluate) a (a.perform command) where
  added_iff := by
    rw [calculator_perform]
    exact Calculator.exists_new_entry_iff hWell
  succeeded := by
    rintro shown rfl hText hShown
    show a.calculator.evaluate.history.entries = _ ∧ a.calculator.evaluate.history.next = _
    rw [Calculator.history_evaluate hText hShown]
    exact ⟨rfl, rfl⟩
  failed := by
    rintro error rfl hText hError
    exact ⟨_, perform_evaluate_of_error hText hError⟩
  blank := by
    rintro rfl hBlank
    exact perform_evaluate_of_blank hBlank

end App

namespace Screen

/-- A gesture records as its command does. Giving the focus comes in only after
a failure, and on a settled screen not at all after nothing was evaluated. -/
theorem records_step {s : Screen} (hWell : s.app.calculator.history.WellNumbered)
    (hSettled : s.Settled) (g : Gesture) :
    App.Records (s.Evaluates g) s.app (s.step g).app where
  added_iff := by
    rw [calculator_step, ← react_command_eq_evaluate_iff]
    cases (s.react g).command with
    | none => simp
    | some command =>
        rw [Option.some_inj]
        exact Calculator.exists_new_entry_iff hWell
  succeeded := by
    intro shown hEvaluates hText hShown
    rw [calculator_step, react_command_eq_evaluate_iff.2 hEvaluates]
    show s.app.calculator.evaluate.history.entries = _ ∧
      s.app.calculator.evaluate.history.next = _
    rw [Calculator.history_evaluate hText hShown]
    exact ⟨rfl, rfl⟩
  failed := by
    intro error hEvaluates hText hError
    have hApplied := applied_of_command (react_command_eq_evaluate_iff.2 hEvaluates)
    rw [App.perform_evaluate_of_error hText hError] at hApplied
    rcases s.app_step g with h | h
    · exact ⟨_, h.trans hApplied⟩
    · rw [hApplied] at h
      exact ⟨_, h⟩
  blank := by
    intro hEvaluates hBlank
    apply hSettled.app_step
    rw [applied_of_command (react_command_eq_evaluate_iff.2 hEvaluates)]
    exact App.perform_evaluate_of_blank hBlank

end Screen

/-- **What is recorded, in whole runs.** At every moment of a run, by commands
or by gestures, a step adds to the history exactly if it evaluates an entry that
is not blank and has a value; it then puts that one entry in front, under a
number not given before. A failure changes nothing but the readout and the wish
for the focus, and a blank entry is left alone. Between any two moments of a run
no number is given twice and no listed entry is altered. -/
theorem history_recorded (settings : Settings) (systemDark : Bool) :
    (∀ (commands : List Command) (command : Command),
      let a := (App.start settings systemDark).run commands
      App.Records (command = .evaluate) a (a.perform command)) ∧
    (∀ (gestures : List Gesture) (g : Gesture),
      let s := (Screen.start settings systemDark).run gestures
      App.Records (s.Evaluates g) s.app (s.step g).app) ∧
    (∀ earlier later : List Command,
      let a := (App.start settings systemDark).run earlier
      a.calculator.history.Consistent (a.run later).calculator.history) ∧
    (∀ earlier later : List Gesture,
      let s := (Screen.start settings systemDark).run earlier
      s.app.calculator.history.Consistent (s.run later).app.calculator.history) := by
  refine ⟨?_, ?_, ?_, ?_⟩
  · intro commands command a
    apply App.records_perform
    rw [App.calculator_run]
    exact Calculator.wellNumbered_run_start settings.places commands
  · intro gestures g s
    apply Screen.records_step
    · rw [Screen.calculator_run]
      exact Calculator.wellNumbered_run_start settings.places _
    · exact Screen.settled_run (Screen.settled_start settings systemDark) gestures
  · intro earlier later a
    have hEarlier : a.calculator = (Calculator.start settings.places).run earlier :=
      App.calculator_run _ earlier
    rw [App.calculator_run a later, hEarlier]
    exact Calculator.consistent_run_start settings.places earlier later
  · intro earlier later s
    have hEarlier : s.app.calculator = (Calculator.start settings.places).run _ :=
      Screen.calculator_run _ earlier
    rw [Screen.calculator_run s later, hEarlier]
    exact Calculator.consistent_run_start settings.places _ _

-- Numbers are not given again after the history has been cleared.
example :
    ((App.start .default false).run
      [.edit "1+1".toList, .evaluate, .clearHistory, .edit " 6/4 ".toList,
        .evaluate]).calculator.history =
      ⟨[⟨1, "6/4".toList, "1.5".toList⟩], 2⟩ := by
  decide +kernel

end DeskCalc
