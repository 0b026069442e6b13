import DeskCalc.Proofs.Expr.LeftOperand
import DeskCalc.Proofs.Session.Recording

/-!
# Taking up a recorded result

A recorded result is a displayed text, and a displayed text is displayed as
itself. So a result that is taken up from the history as the new entry can be
evaluated at once, and what is recorded of it is the same text twice.

Every entry was recorded by an evaluation under the places in use, and neither
the entries nor the places change afterwards; that is the invariant of the runs.

## Main results

* `Entry.Valued` — what an entry owes its reader.
* `Calculator.reusable_run_start` — every listed entry of a run has it.
* `history_reusable` — a listed entry that is taken up and evaluated again, by
  commands and by gestures.
-/

namespace DeskCalc

/-- The entry's result is that of its expression, which is not blank and has no
blanks around it. -/
structure Entry.Valued (e : Entry) (places : Nat) : Prop where
  nonempty : e.expression ≠ []
  trimmed : e.expression.trim = e.expression
  value : Display.evaluate e.expression places = .ok e.result

namespace Entry.Valued

variable {e : Entry} {places : Nat}

/-- The result is displayed as itself. -/
theorem evaluate_result (h : e.Valued places) :
    Display.evaluate e.result places = .ok e.result := by
  obtain ⟨x, -, hWrite⟩ := exists_of_bind_eq_ok h.value
  exact Display.evaluate_of_write hWrite

/-- The result has no blanks around it. -/
theorem trim_result (h : e.Valued places) : e.result.trim = e.result := by
  obtain ⟨negative, m, hText⟩ := Display.exists_text_of_evaluate h.value
  rw [hText]
  exact Text.trim_of_not_blank (Binary64.text_not_blank negative m)

/-- The result is not blank, since a blank text has no value. -/
theorem exists_visible_result (h : e.Valued places) :
    ∃ c ∈ e.result, Text.isBlank c = false := by
  by_contra hBlank
  have hEmpty : evaluate e.result = .error .emptyInput := by
    rw [evaluate_eq_emptyInput_iff]
    simpa using hBlank
  obtain ⟨x, hValue, -⟩ := exists_of_bind_eq_ok h.evaluate_result
  rw [hEmpty] at hValue
  contradiction

end Entry.Valued

namespace Calculator

/-- The listed entries are found by their numbers and are valued under the places
in use. -/
structure Reusable (c : Calculator) : Prop where
  wellNumbered : c.history.WellNumbered
  valued : ∀ e ∈ c.history.entries, e.Valued c.places

theorem Reusable.perform {c : Calculator} (h : c.Reusable) (command : Command) :
    (c.perform command).Reusable where
  wellNumbered := wellNumbered_perform h.wellNumbered command
  valued := by
    rw [places_perform]
    apply forall_listed_perform h.valued
    intro shown hBlank hShown
    exact ⟨by simpa [isBlank] using hBlank, c.entry.trim_trim, hShown⟩

theorem reusable_run_start (places : Nat) (commands : List Command) :
    ((start places).run commands).Reusable := by
  have hStart : (start places).Reusable :=
    ⟨History.wellNumbered_empty, by simp [start, History.empty]⟩
  exact run_preserves (fun _ command h => h.perform command) hStart commands

/-- A listed entry is taken up as it is: its result as the entry, and nothing
below it. -/
theorem Reusable.reuse_eq {c : Calculator} (h : c.Reusable) {e : Entry}
    (he : e ∈ c.history.entries) :
    c.reuse e.number = { c with entry := e.result, readout := .blank } := by
  have hFind := h.wellNumbered.find?_eq_some_iff.2 ⟨he, rfl⟩
  rw [reuse, hFind]

/-- The calculator `after` shows the text as its own value and has recorded it
once more than `before`. -/
structure Repeats (after : Calculator) (text : Text) (before : Calculator) : Prop where
  entry : after.entry = text
  readout : after.readout = .value text true
  /-- One entry is added, with that text on both sides. -/
  entries : after.history.entries =
    (⟨before.history.next, text, text⟩ :: before.history.entries).take History.limit

/-- **A result that is taken up is evaluated to itself.** -/
theorem repeats_evaluate {c : Calculator} {e : Entry} (h : e.Valued c.places)
    (hEntry : c.entry = e.result) : c.evaluate.Repeats e.result c := by
  have hTrim : c.entry.trim = e.result := by rw [hEntry, h.trim_result]
  have hText : c.isBlank = false := by
    rw [isBlank_eq_false_iff, hEntry]
    exact h.exists_visible_result
  have hShown : Display.evaluate c.entry.trim c.places = .ok e.result := by
    rw [hTrim]
    exact h.evaluate_result
  rw [evaluate_eq_of_ok hText hShown, hTrim]
  exact ⟨hEntry, rfl, rfl⟩

end Calculator

/-- What becomes of the state when an entry of the history is taken up. -/
structure App.TakesUp (e : Entry) (before after : App) : Prop where
  /-- The result is the new entry, and nothing is shown below it. -/
  calculator : after.calculator = { before.calculator with entry := e.result, readout := .blank }
  closed : after.panelOpen = false
  /-- An evaluation that follows shows the same text and records it. -/
  evaluated : (after.perform .evaluate).calculator.Repeats e.result after.calculator

namespace App

theorem reuse_eq {a : App} (h : a.calculator.Reusable) {e : Entry}
    (he : e ∈ a.calculator.history.entries) :
    a.reuse e.number =
      { a with
        calculator := a.calculator.reuse e.number
        panelOpen := false
        wantsFocus := true } := by
  have hFind := h.wellNumbered.find?_eq_some_iff.2 ⟨he, rfl⟩
  rw [reuse, hFind]
  rfl

/-- A state with the calculator of a taken entry and a closed panel takes the
entry up, whatever else has changed. -/
theorem takesUp_of_reuse {before after : App} {e : Entry} (h : before.calculator.Reusable)
    (he : e ∈ before.calculator.history.entries)
    (hCalculator : after.calculator = before.calculator.reuse e.number)
    (hClosed : after.panelOpen = false) : TakesUp e before after := by
  have hTaken := hCalculator.trans (h.reuse_eq he)
  refine ⟨hTaken, hClosed, ?_⟩
  rw [calculator_perform]
  have hPlaces : e.Valued after.calculator.places := by
    rw [hTaken]
    exact h.valued e he
  exact Calculator.repeats_evaluate hPlaces (by rw [hTaken])

end App

/-- What becomes of the screen when the entry at a position of the open panel is
clicked. -/
structure Screen.TakesUp (s : Screen) (position : Nat) (e : Entry) : Prop where
  shown : (s.react (.pickEntry position)).done = true
  state : App.TakesUp e s.app (s.step (.pickEntry position)).app
  /-- On the calculator's tab Enter evaluates next. -/
  enter : s.app.tab = .calculator → (s.step (.pickEntry position)).Evaluates .enter
  /-- Whichever gesture evaluates shows the same text and records it. -/
  evaluated : ∀ g, (s.step (.pickEntry position)).Evaluates g →
    ((s.step (.pickEntry position)).step g).app.calculator.Repeats e.result
      (s.step (.pickEntry position)).app.calculator

namespace Screen

variable {s : Screen} {position : Nat} {e : Entry}

/-- A click on a listed entry takes up that entry. -/
theorem react_pickEntry (hOpen : s.app.panelOpen = true)
    (he : s.app.calculator.history.entries[position]? = some e) :
    s.react (.pickEntry position) = clicked (.reuse e.number) := by
  show s.clickedIf (s.entryCommand? position) = _
  rw [entryCommand?, if_pos hOpen, he]
  rfl

theorem takesUp_of_panelOpen (h : s.app.calculator.Reusable) (hOpen : s.app.panelOpen = true)
    (he : s.app.calculator.history.entries[position]? = some e) : s.TakesUp position e := by
  have hMem := List.mem_of_getElem? he
  have hReact := react_pickEntry hOpen he
  have hCommand : (s.react (.pickEntry position)).command = some (.reuse e.number) := by
    rw [hReact]
    rfl
  have hApplied : s.applied (.pickEntry position) = s.app.reuse e.number :=
    applied_of_command hCommand
  rw [App.reuse_eq h hMem] at hApplied
  have hState : App.TakesUp e s.app (s.step (.pickEntry position)).app := by
    apply App.takesUp_of_reuse h hMem
    · rw [calculator_step, hCommand]
      rfl
    · rw [field_step App.panelOpen (fun _ => rfl), hApplied]
  refine ⟨by rw [hReact]; rfl, hState, ?_, ?_⟩
  · intro hTab
    have hStep : s.step (.pickEntry position) = settle ⟨s.applied (.pickEntry position), _⟩ := rfl
    rw [hStep, hApplied, settle, if_pos ⟨hTab, rfl⟩]
    exact .inr ⟨rfl, rfl⟩
  · intro g hEvaluates
    rw [calculator_step, react_command_eq_evaluate_iff.2 hEvaluates]
    exact hState.evaluated

end Screen

/-- **Every recorded result can be taken up again**, at every moment of every
run. A listed entry has an expression that is not blank and its result under the
places in use. Taking it up, by its number or by a click on its position in the
open panel, puts exactly its result into the entry, clears the readout and closes
the panel; an evaluation that follows shows the same text as final and adds one
entry with this text as expression and as result. -/
theorem history_reusable (settings : Settings) (systemDark : Bool) :
    (∀ commands : List Command,
      let a := (App.start settings systemDark).run commands
      ∀ (position : Nat) (e : Entry), a.calculator.history.entries[position]? = some e →
        e.Valued a.calculator.places ∧ App.TakesUp e a (a.perform (.reuse e.number))) ∧
    (∀ gestures : List Gesture,
      let s := (Screen.start settings systemDark).run gestures
      ∀ (position : Nat) (e : Entry), s.app.calculator.history.entries[position]? = some e →
        e.Valued s.app.calculator.places ∧
          (s.app.panelOpen = true → s.TakesUp position e)) := by
  constructor
  · intro commands a position e he
    have hReusable : a.calculator.Reusable := by
      rw [App.calculator_run]
      exact Calculator.reusable_run_start settings.places commands
    have hMem := List.mem_of_getElem? he
    have hClosed : (a.reuse e.number).panelOpen = false := by rw [App.reuse_eq hReusable hMem]
    exact ⟨hReusable.valued e hMem,
      App.takesUp_of_reuse hReusable hMem (a.calculator_perform _) hClosed⟩
  · intro gestures s position e he
    have hReusable : s.app.calculator.Reusable := by
      rw [Screen.calculator_run]
      exact Calculator.reusable_run_start settings.places _
    refine ⟨hReusable.valued e (List.mem_of_getElem? he), ?_⟩
    intro hOpen
    exact Screen.takesUp_of_panelOpen hReusable hOpen he

/-- A quarter, evaluated at the screen and then picked from the open panel. -/
theorem history_reusable_quarter :
    let s := (Screen.start .default false).run
      [.fillEntry "1/4".toList, .enter, .click "Historique"]
    let e : Entry := ⟨0, "1/4".toList, "0.25".toList⟩
    s.app.calculator.history.entries[0]? = some e ∧ s.app.panelOpen = true ∧
      e.Valued s.app.calculator.places ∧ s.TakesUp 0 e := by
  intro s e
  have hEntry : s.app.calculator.history.entries[0]? = some e := by decide +kernel
  have hOpen : s.app.panelOpen = true := by decide +kernel
  obtain ⟨hValued, hTakesUp⟩ := (history_reusable .default false).2 _ 0 e hEntry
  exact ⟨hEntry, hOpen, hValued, hTakesUp hOpen⟩

end DeskCalc
