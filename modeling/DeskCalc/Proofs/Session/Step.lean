import DeskCalc.Session.App

/-!
# What one command does

The calculator is a machine of its own inside the state: what a command does to
it depends on nothing around it, and the commands of appearance and of the
converter leave it alone. The lemmas below say once, for all commands, what may
become of the readout, of the entry and of the history. Every invariant is
derived from them, so that no proof about runs looks into an operation again.

## Main results

* `App.calculator_perform` — a command reaches the calculator by itself.
* `Calculator.evaluate_cases` — the three outcomes of an evaluation.
* `Calculator.readout_perform`, `Calculator.history_perform` — what a step can
  do to the readout and to the history.
* `Calculator.forall_listed_perform` — what a step keeps of all listed entries.
-/

namespace DeskCalc

/-- A readout that is not final belongs to no entry already. -/
theorem Readout.detach_of_not_final {r : Readout} (h : r.isFinal = false) : r.detach = r := by
  cases r with
  | value shown final =>
      cases h
      rfl
  | _ => rfl

namespace Calculator

/-- What a command does to the calculator. -/
def perform (c : Calculator) : Command → Calculator
  | .press key => c.press key
  | .clear => c.clear
  | .delete => c.delete
  | .evaluate => c.evaluate
  | .edit text => c.edit text
  | .reuse number => c.reuse number
  | .clearHistory => c.clearHistory
  | _ => c

end Calculator

/-- **A command reaches the calculator by itself**: nothing around it counts. -/
theorem App.calculator_perform (a : App) (command : Command) :
    (a.perform command).calculator = a.calculator.perform command := by
  cases command with
  | reuse number =>
      show (a.reuse number).calculator = a.calculator.reuse number
      unfold App.reuse Calculator.reuse
      cases a.calculator.history.find? number with
      | none => rfl
      | some recorded => rfl
  | chooseCategory category =>
      show (if category = a.converter.category then a else _ : App).calculator = a.calculator
      split <;> rfl
  | _ => rfl

/-- What a command does to the converter. -/
def Converter.perform (c : Converter) : Command → Converter
  | .chooseCategory category => if category = c.category then c else c.chooseCategory category
  | .setAmount amount => { c with amount := amount }
  | .chooseSource u => { c with source := u }
  | .chooseTarget u => { c with target := u }
  | _ => c

/-- **A command reaches the converter by itself**, too. -/
theorem App.converter_perform (a : App) (command : Command) :
    (a.perform command).converter = a.converter.perform command := by
  cases command with
  | reuse number =>
      show (a.reuse number).converter = a.converter
      unfold App.reuse
      split <;> rfl
  | chooseCategory category =>
      show (if category = a.converter.category then a else _ : App).converter =
        if category = a.converter.category then a.converter else _
      split <;> rfl
  | _ => rfl

namespace Calculator

/-- The entry holds nothing to evaluate exactly if it holds nothing but
blanks. -/
theorem isBlank_iff {c : Calculator} :
    c.isBlank = true ↔ ∀ x ∈ c.entry, Text.isBlank x = true := by
  rw [isBlank, List.isEmpty_iff, Text.trim_eq_nil_iff]

theorem isBlank_eq_false_iff {c : Calculator} :
    c.isBlank = false ↔ ∃ x ∈ c.entry, Text.isBlank x = false := by
  rw [← Bool.not_eq_true, isBlank_iff]
  simp

theorem evaluate_eq_of_ok {c : Calculator} {shown : Text} (hBlank : c.isBlank = false)
    (h : Display.evaluate c.entry.trim c.places = .ok shown) :
    c.evaluate = { c with
      readout := .value shown true
      history := c.history.record c.entry.trim shown } := by
  unfold isBlank at hBlank
  simp [evaluate, hBlank, h]

theorem evaluate_eq_of_error {c : Calculator} {error : CalcError} (hBlank : c.isBlank = false)
    (h : Display.evaluate c.entry.trim c.places = .error error) :
    c.evaluate = { c with readout := .failure } := by
  unfold isBlank at hBlank
  simp [evaluate, hBlank, h]

/-- **The outcomes of an evaluation**: nothing to evaluate, a value, or an
error. -/
theorem evaluate_cases (c : Calculator) :
    (c.isBlank = true ∧ c.evaluate = c) ∨
    (c.isBlank = false ∧ ∃ shown, Display.evaluate c.entry.trim c.places = .ok shown ∧
      c.evaluate = { c with
        readout := .value shown true
        history := c.history.record c.entry.trim shown }) ∨
    (c.isBlank = false ∧ ∃ error, Display.evaluate c.entry.trim c.places = .error error ∧
      c.evaluate = { c with readout := .failure }) := by
  cases hBlank : c.isBlank with
  | true => exact .inl ⟨rfl, evaluate_of_isBlank hBlank⟩
  | false =>
      cases hShown : Display.evaluate c.entry.trim c.places with
      | ok shown => exact .inr (.inl ⟨rfl, shown, rfl, evaluate_eq_of_ok hBlank hShown⟩)
      | error error => exact .inr (.inr ⟨rfl, error, rfl, evaluate_eq_of_error hBlank hShown⟩)

/-- An evaluation leaves the entry as it is. -/
theorem entry_evaluate (c : Calculator) : c.evaluate.entry = c.entry := by
  rcases c.evaluate_cases with ⟨-, h⟩ | ⟨-, shown, -, h⟩ | ⟨-, error, -, h⟩ <;> rw [h]

/-- An entry without a final value gets the text of a key at its end, and nothing
else changes. -/
theorem press_of_not_final {c : Calculator} (h : c.readout.isFinal = false) (key : Text) :
    c.press key = { c with entry := c.entry ++ key } := by
  unfold press
  split
  next shown hFinal =>
    rw [hFinal] at h
    contradiction
  next => rfl

theorem edit_of_not_final {c : Calculator} (h : c.readout.isFinal = false) (text : Text) :
    c.edit text = { c with entry := text } := by
  rw [edit, Readout.detach_of_not_final h]

/-- Taking up an entry leaves the history as it is. -/
theorem history_reuse (c : Calculator) (number : Nat) :
    (c.reuse number).history = c.history := by
  unfold reuse
  split <;> rfl

/-- The number of places is never changed. -/
@[simp] theorem places_perform (c : Calculator) (command : Command) :
    (c.perform command).places = c.places := by
  cases command with
  | press key =>
      show (c.press key).places = c.places
      unfold press
      split <;> rfl
  | delete =>
      show c.delete.places = c.places
      unfold delete
      split <;> rfl
  | evaluate =>
      show c.evaluate.places = c.places
      rcases c.evaluate_cases with ⟨-, h⟩ | ⟨-, shown, -, h⟩ | ⟨-, error, -, h⟩ <;> rw [h]
  | reuse number =>
      show (c.reuse number).places = c.places
      unfold reuse
      split <;> rfl
  | _ => rfl

/-- The text that a command's evaluation returns, if it makes one and that
succeeds. -/
def answer? (c : Calculator) : Command → Option Text
  | .evaluate => (Display.evaluate c.entry.trim c.places).toOption
  | _ => none

theorem answer?_evaluate {c : Calculator} {shown : Text}
    (h : Display.evaluate c.entry.trim c.places = .ok shown) :
    c.answer? .evaluate = some shown := by
  rw [answer?, h]
  rfl

/-- **What a command can do to the readout**: leave it beside the same entry,
take away its claim to be final, or show the value of the entry. -/
theorem readout_perform (c : Calculator) (command : Command) :
    ((c.perform command).readout = c.readout ∧ (c.perform command).entry = c.entry) ∨
    ((c.perform command).readout.isFinal = false ∧
      ((c.perform command).readout.text = [] ∨
        (c.perform command).readout.text = Readout.failureMark ∨
        (c.perform command).readout.text = c.readout.text)) ∨
    ∃ shown, c.answer? command = some shown ∧
      (c.perform command).readout = .value shown true ∧ (c.perform command).entry = c.entry ∧
        Display.evaluate c.entry.trim c.places = .ok shown := by
  cases command with
  | press key =>
      right; left
      refine ⟨isFinal_press c key, ?_⟩
      show (c.press key).readout.text = [] ∨ _ ∨ (c.press key).readout.text = _
      unfold press
      split
      · exact .inl rfl
      · exact .inr (.inr rfl)
  | clear => exact .inr (.inl ⟨rfl, .inl rfl⟩)
  | delete =>
      right; left
      show c.delete.readout.isFinal = false ∧ (c.delete.readout.text = [] ∨ _ ∨
        c.delete.readout.text = _)
      unfold delete
      split
      next => exact ⟨rfl, .inl rfl⟩
      next hFinal => exact ⟨by simpa using hFinal, .inr (.inr rfl)⟩
  | evaluate =>
      rcases c.evaluate_cases with ⟨-, h⟩ | ⟨-, shown, hShown, h⟩ | ⟨-, error, -, h⟩
      · left
        show c.evaluate.readout = _ ∧ c.evaluate.entry = _
        rw [h]
        exact ⟨rfl, rfl⟩
      · right; right
        refine ⟨shown, answer?_evaluate hShown, ?_, c.entry_evaluate, hShown⟩
        show c.evaluate.readout = _
        rw [h]
      · right; left
        show c.evaluate.readout.isFinal = false ∧ (_ ∨ c.evaluate.readout.text = _ ∨ _)
        rw [h]
        exact ⟨rfl, .inr (.inl rfl)⟩
  | edit text =>
      exact .inr (.inl ⟨isFinal_edit c text, .inr (.inr (Readout.text_detach c.readout))⟩)
  | reuse number =>
      show ((c.reuse number).readout = _ ∧ (c.reuse number).entry = _) ∨
        ((c.reuse number).readout.isFinal = false ∧ ((c.reuse number).readout.text = [] ∨ _)) ∨ _
      unfold reuse
      split
      · exact .inr (.inl ⟨rfl, .inl rfl⟩)
      · exact .inl ⟨rfl, rfl⟩
  | _ => exact .inl ⟨rfl, rfl⟩

/-- **What a command can do to the history**: leave it, empty it, or record the
value of the entry. -/
theorem history_perform (c : Calculator) (command : Command) :
    (c.perform command).history = c.history ∨
    (c.perform command).history = c.history.clear ∨
    (command = .evaluate ∧ c.isBlank = false ∧
      ∃ shown, Display.evaluate c.entry.trim c.places = .ok shown ∧
        (c.perform command).history = c.history.record c.entry.trim shown) := by
  cases command with
  | press key =>
      left
      show (c.press key).history = c.history
      unfold press
      split <;> rfl
  | delete =>
      left
      show c.delete.history = c.history
      unfold delete
      split <;> rfl
  | evaluate =>
      show c.evaluate.history = c.history ∨ _ ∨ (_ ∧ _ ∧ ∃ shown, _ ∧ c.evaluate.history = _)
      rcases c.evaluate_cases with ⟨-, h⟩ | ⟨hBlank, shown, hShown, h⟩ | ⟨-, error, -, h⟩
      · left
        rw [h]
      · right; right
        refine ⟨rfl, hBlank, shown, hShown, ?_⟩
        rw [h]
      · left
        rw [h]
  | reuse number => exact .inl (c.history_reuse number)
  | clearHistory => exact .inr (.inl rfl)
  | _ => exact .inl rfl

/-- **What holds of all listed entries** still does after a command, if it holds of
the entry that an evaluation records. -/
theorem forall_listed_perform {P : Entry → Prop} {c : Calculator}
    (hOld : ∀ e ∈ c.history.entries, P e)
    (hNew : ∀ shown, c.isBlank = false → Display.evaluate c.entry.trim c.places = .ok shown →
      P ⟨c.history.next, c.entry.trim, shown⟩)
    (command : Command) : ∀ e ∈ (c.perform command).history.entries, P e := by
  intro e he
  rcases c.history_perform command with hSame | hClear | ⟨-, hBlank, shown, hShown, hRecord⟩
  · rw [hSame] at he
    exact hOld e he
  · rw [hClear] at he
    simp [History.clear] at he
  · rw [hRecord] at he
    rcases List.mem_cons.1 (List.mem_of_mem_take he) with rfl | hListed
    · exact hNew shown hBlank hShown
    · exact hOld e hListed

end Calculator

end DeskCalc
