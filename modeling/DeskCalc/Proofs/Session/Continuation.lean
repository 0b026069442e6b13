import DeskCalc.Proofs.Expr.LeftOperand
import DeskCalc.Proofs.Session.FinalValue

/-!
# Going on from a final value

An operator pressed after a final value puts the value in front of itself, and
the user goes on typing behind it. The entry that comes of this is read as any
other text. That the value keeps together as the left operand, with its sign,
rests on the form of displayed values alone and not on what is typed
afterwards.

## Main results

* `App.Appended.entry_eq` — what is typed behind an entry is appended to it.
* `continuation_takes_value` — the entry evaluates as with the value in
  parentheses.
-/

namespace DeskCalc

/-- What an evaluation with this outcome leaves to be read. -/
def Readout.ofOutcome : Except CalcError Text → Readout
  | .ok shown => .value shown true
  | .error _ => .failure

namespace Calculator

/-- A key that goes on from a value is one character that stands for an
operator. -/
theorem exists_of_mem_continuations {key : Text} (h : key ∈ continuations) :
    ∃ c op, key = [c] ∧ Lexeme.Symbol c (.binary op) := by
  unfold continuations at h
  simp only [List.mem_cons, List.not_mem_nil, or_false] at h
  rcases h with rfl | rfl | rfl | rfl | rfl
  · exact ⟨'+', .add, rfl, by decide⟩
  · exact ⟨'-', .sub, rfl, by decide⟩
  · exact ⟨'×', .mul, rfl, by decide⟩
  · exact ⟨'÷', .div, rfl, by decide⟩
  · exact ⟨'^', .pow, rfl, by decide⟩

theorem entry_press_of_final {c : Calculator} {shown key : Text}
    (hFinal : c.readout = .value shown true) (hKey : key ∈ continuations) :
    (c.press key).entry = shown ++ key := by
  simp [press, hFinal, hKey]

theorem readout_evaluate {c : Calculator} (hText : ∃ x ∈ c.entry, Text.isBlank x = false) :
    c.evaluate.readout = .ofOutcome (Display.evaluate c.entry.trim c.places) := by
  have hNotBlank : c.isBlank = false := isBlank_eq_false_iff.2 hText
  cases h : Display.evaluate c.entry.trim c.places with
  | ok shown =>
      rw [evaluate_eq_of_ok hNotBlank h]
      rfl
  | error error =>
      rw [evaluate_eq_of_error hNotBlank h]
      rfl

end Calculator

namespace App

/-- The text `t` has been appended to the entry of the state `a`, by keys or by
typing at the end of the field, and the result is the state `b`. In between
anything may happen that keeps the entry and makes no value final. -/
inductive Appended (a : App) : Text → App → Prop
  | none : Appended a [] a
  | key {t b} (h : Appended a t b) (key : Text) :
      Appended a (t ++ key) (b.perform (.press key))
  | typed {t b} (h : Appended a t b) (text : Text) :
      Appended a (t ++ text) (b.perform (.edit (b.calculator.entry ++ text)))
  | aside {t b} (h : Appended a t b) (command : Command)
      (hEntry : (b.perform command).calculator.entry = b.calculator.entry)
      (hOpen : (b.perform command).calculator.readout.isFinal = false) :
      Appended a t (b.perform command)

/-- **What is typed behind an entry is appended to it.** -/
theorem Appended.entry_eq {a b : App} {t : Text} (h : Appended a t b)
    (hOpen : a.calculator.readout.isFinal = false) :
    b.calculator.entry = a.calculator.entry ++ t ∧
      b.calculator.readout.isFinal = false := by
  induction h with
  | none => exact ⟨(List.append_nil _).symm, hOpen⟩
  | @key t b _ key ih =>
      obtain ⟨hEntry, hNotFinal⟩ := ih
      refine ⟨?_, b.calculator.isFinal_press key⟩
      show (b.calculator.press key).entry = _
      rw [Calculator.press_of_not_final hNotFinal, ← List.append_assoc, ← hEntry]
  | @typed t b _ text ih =>
      refine ⟨?_, b.calculator.isFinal_edit _⟩
      show b.calculator.entry ++ text = _
      rw [ih.1, List.append_assoc]
  | aside _ command hEntry hNotFinal ih => exact ⟨hEntry.trans ih.1, hNotFinal⟩

end App

/-- **The value shown is the whole left operand of what is typed behind it.** In
a state within reach that shows a final value, an operator key makes the entry
the value and the operator. Whatever is then appended, sense or nonsense, the
entry has the value, or the error, of the text in which the value stands in
parentheses, and that is what evaluating the entry shows. -/
theorem continuation_takes_value {a : App} (hReachable : a.Reachable) {shown key : Text}
    (hFinal : a.calculator.readout = .value shown true)
    (hKey : key ∈ Calculator.continuations) :
    (a.perform (.press key)).calculator.entry = shown ++ key ∧
    ∀ t b, App.Appended (a.perform (.press key)) t b →
      b.calculator.entry = shown ++ key ++ t ∧
      evaluate b.calculator.entry.trim = evaluate (('(' :: shown ++ [')']) ++ key ++ t) ∧
      (b.perform .evaluate).calculator.readout =
        .ofOutcome (Display.evaluate (('(' :: shown ++ [')']) ++ key ++ t)
          b.calculator.places) := by
  have hEntry : (a.perform (.press key)).calculator.entry = shown ++ key :=
    Calculator.entry_press_of_final hFinal hKey
  refine ⟨hEntry, ?_⟩
  intro t b hAppended
  obtain ⟨hAppend, -⟩ := hAppended.entry_eq (a.calculator.isFinal_press key)
  rw [hEntry] at hAppend
  obtain ⟨c, op, rfl, hSymbol⟩ := Calculator.exists_of_mem_continuations hKey
  obtain ⟨negative, m, rfl⟩ := Display.exists_text_of_evaluate (hReachable.evaluate_of_final hFinal)
  have hValue : evaluate b.calculator.entry.trim =
      evaluate (('(' :: (Binary64.finite negative m).text ++ [')']) ++ [c] ++ t) := by
    rw [evaluate_trim, hAppend, List.append_assoc, List.append_assoc]
    exact (evaluate_group_text negative m hSymbol t).symm
  have hShown : Display.evaluate b.calculator.entry.trim b.calculator.places =
      Display.evaluate (('(' :: (Binary64.finite negative m).text ++ [')']) ++ [c] ++ t)
        b.calculator.places := by
    rw [Display.evaluate, hValue]
    rfl
  have hText : ∃ x ∈ b.calculator.entry, Text.isBlank x = false :=
    ⟨c, by rw [hAppend]; simp, hSymbol.1⟩
  refine ⟨hAppend, hValue, ?_⟩
  rw [← hShown]
  exact Calculator.readout_evaluate hText

/-- Three below zero is squared by the keys, and the sign with it. -/
theorem continuation_takes_value_squared :
    let a := (App.start .default false).run [.edit "0-3".toList, .evaluate]
    let b := (a.perform (.press ['^'])).perform (.press ['2'])
    a.Reachable ∧ a.calculator.readout = .value "-3".toList true ∧
      (a.perform (.press ['^'])).calculator.entry = "-3^".toList ∧
      b.calculator.entry = "-3^2".toList ∧
      evaluate b.calculator.entry.trim = evaluate "(-3)^2".toList ∧
      (b.perform .evaluate).calculator.readout =
        .ofOutcome (Display.evaluate "(-3)^2".toList b.calculator.places) := by
  intro a b
  have hReachable : a.Reachable := ⟨.default, false, _, rfl⟩
  have hFinal : a.calculator.readout = .value "-3".toList true := by decide +kernel
  have hKey : ['^'] ∈ Calculator.continuations := by decide
  have hAppended : App.Appended (a.perform (.press ['^'])) ['2'] b := .key .none ['2']
  obtain ⟨hEntry, hBehind⟩ := continuation_takes_value hReachable hFinal hKey
  exact ⟨hReachable, hFinal, hEntry, hBehind ['2'] b hAppended⟩

end DeskCalc
