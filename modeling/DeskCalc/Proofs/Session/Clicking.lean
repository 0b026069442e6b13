import DeskCalc.Proofs.Session.KeyText
import DeskCalc.Proofs.Session.Run

/-!
# Keys against typing

An entry can be clicked together on the keypads or typed into its field, and then
be evaluated by the key for it or by Enter. The two ways handle the readout and
the focus at different moments: a key wishes for the focus that its click took
away, while typing keeps the focus and detaches the readout from the entry.

`App.Written` compares both with the state they started from. It leaves open only
the keypad shown and the wish for the focus, and evaluating settles the latter.

## Main results

* `Keypad.exists_clicks` — every list of keys can be clicked.
* `Screen.written_clicks`, `Screen.written_types` — what either way writes.
* `Screen.step_of_written` — what evaluating makes of it.
* `clicking_is_typing` — the two ways lead to the same screen.
-/

namespace DeskCalc

namespace Keypad

/-- Clicks that press the given keys in turn, starting on this keypad. The button
that changes the keypad may be clicked in between. -/
inductive Clicks : Keypad → List Gesture → List Key → Prop
  | done {k : Keypad} : Clicks k [] []
  | change {k : Keypad} {gestures : List Gesture} {keys : List Key}
      (hRest : Clicks k.other gestures keys) : Clicks k (.key k.label :: gestures) keys
  | press {k : Keypad} {key : Key} {gestures : List Gesture} {keys : List Key}
      (hKey : key ∈ k.keys) (hText : key.command = .press key.text)
      (hRest : Clicks k gestures keys) : Clicks k (.key key.label :: gestures) (key :: keys)

theorem eq_or_eq_other (k shown : Keypad) : k = shown ∨ k = shown.other := by
  cases k <;> cases shown <;> simp [other]

/-- **Every list of keys can be clicked**, whichever keypad is shown. -/
theorem exists_clicks (shown : Keypad) {keys : List Key} (hKeys : ∀ key ∈ keys, key.Inserts) :
    ∃ gestures, shown.Clicks gestures keys := by
  induction keys generalizing shown with
  | nil => exact ⟨[], .done⟩
  | cons key keys ih =>
      obtain ⟨⟨⟨k, hKey⟩, hText⟩, hRest⟩ := List.forall_mem_cons.1 hKeys
      obtain ⟨gestures, hClicks⟩ := ih k hRest
      have hPress : k.Clicks (.key key.label :: gestures) (key :: keys) :=
        .press hKey hText hClicks
      rcases k.eq_or_eq_other shown with rfl | rfl
      · exact ⟨_, hPress⟩
      · exact ⟨_, .change hPress⟩

end Keypad

namespace Calculator

/-- The calculator with a text behind its entry. -/
def write (c : Calculator) (text : Text) : Calculator := { c with entry := c.entry ++ text }

@[simp] theorem write_nil (c : Calculator) : c.write [] = c := by
  simp [write]

@[simp] theorem write_append (c : Calculator) (first second : Text) :
    (c.write first).write second = c.write (first ++ second) := by
  simp [write]

end Calculator

namespace App

/-- The state `b` is `a` with a text behind the entry, whatever keypad it shows and
whether or not it wishes for the focus. -/
def Written (a : App) (text : Text) (b : App) : Prop :=
  ∃ keypad wantsFocus, b = { a with
    calculator := a.calculator.write text
    keypad := keypad
    wantsFocus := wantsFocus }

namespace Written

variable {a b c : App} {text more : Text}

theorem refl (a : App) : a.Written [] a :=
  ⟨a.keypad, a.wantsFocus, by simp⟩

theorem trans (h : a.Written text b) (hMore : b.Written more c) : a.Written (text ++ more) c := by
  obtain ⟨_, _, rfl⟩ := h
  obtain ⟨keypad, wantsFocus, rfl⟩ := hMore
  exact ⟨keypad, wantsFocus, by simp⟩

theorem tab_eq (h : a.Written text b) : b.tab = a.tab := by
  obtain ⟨_, _, rfl⟩ := h
  rfl

theorem calculator_eq (h : a.Written text b) : b.calculator = a.calculator.write text := by
  obtain ⟨_, _, rfl⟩ := h
  rfl

theorem not_final (h : a.Written text b) (hOpen : a.calculator.readout.isFinal = false) :
    b.calculator.readout.isFinal = false := by
  rw [h.calculator_eq]
  exact hOpen

end Written

theorem written_dropFocus (a : App) : a.Written [] (a.perform .dropFocus) :=
  ⟨a.keypad, false, by simp [perform]⟩

theorem written_toggleKeypad (a : App) : a.Written [] (a.perform .toggleKeypad) :=
  ⟨a.keypad.other, a.wantsFocus, by simp [perform]⟩

theorem written_press {a : App} (hOpen : a.calculator.readout.isFinal = false) (key : Text) :
    a.Written key (a.perform (.press key)) :=
  ⟨a.keypad, true, by simp [perform, Calculator.press_of_not_final hOpen, Calculator.write]⟩

theorem written_edit {a : App} (hOpen : a.calculator.readout.isFinal = false) (text : Text) :
    a.Written text (a.perform (.edit (a.calculator.entry ++ text))) :=
  ⟨a.keypad, a.wantsFocus, by
    simp [perform, Calculator.edit_of_not_final hOpen, Calculator.write]⟩

end App

namespace Screen

variable {s : Screen} {text : Text}

/-- What a gesture writes is what its command writes. -/
theorem written_step {g : Gesture} (h : s.app.Written text (s.applied g)) :
    s.app.Written text (s.step g).app := by
  rcases s.app_step g with hStep | hStep
  · rw [hStep]
    exact h
  · rw [hStep, ← List.append_nil text]
    exact h.trans (App.written_dropFocus _)

/-- **Clicked keys write their texts**, in whatever way they are reached. -/
theorem written_clicks {k : Keypad} {gestures : List Gesture} {keys : List Key}
    (h : k.Clicks gestures keys) (hKeypad : s.app.keypad = k) (hTab : s.app.tab = .calculator)
    (hOpen : s.app.calculator.readout.isFinal = false) :
    s.app.Written (Key.joined keys) (s.run gestures).app := by
  induction h generalizing s with
  | done => exact .refl s.app
  | @change k gestures keys _ ih =>
      subst hKeypad
      have hApplied : s.applied (.key s.app.keypad.label) = s.app.perform .toggleKeypad :=
        applied_of_command (congrArg Reaction.command (react_changeKeypad hTab))
      have hStep : s.app.Written [] (s.step (.key s.app.keypad.label)).app :=
        written_step (hApplied ▸ s.app.written_toggleKeypad)
      have hOther : (s.step (.key s.app.keypad.label)).app.keypad = s.app.keypad.other := by
        rw [field_step App.keypad (fun _ => rfl), hApplied]
        rfl
      exact hStep.trans
        (ih hOther (hStep.tab_eq.trans hTab) (hStep.not_final hOpen))
  | @press k key gestures keys hKey hText _ ih =>
      subst hKeypad
      have hApplied : s.applied (.key key.label) = s.app.perform (.press key.text) := by
        rw [← hText]
        exact applied_of_command (congrArg Reaction.command (react_key hTab hKey))
      have hStep : s.app.Written key.text (s.step (.key key.label)).app :=
        written_step (hApplied ▸ App.written_press hOpen key.text)
      have hSame : (s.step (.key key.label)).app.keypad = s.app.keypad := by
        rw [field_step App.keypad (fun _ => rfl), hApplied]
        rfl
      rw [Key.joined_cons]
      exact hStep.trans
        (ih hSame (hStep.tab_eq.trans hTab) (hStep.not_final hOpen))

theorem focus_settle_entry (a : App) : (settle ⟨a, some .entry⟩).focus = some .entry := by
  unfold settle
  split <;> rfl

/-- A text typed into the entry field is written, and the field keeps the focus. -/
theorem written_type (hFocus : s.focus = some .entry)
    (hOpen : s.app.calculator.readout.isFinal = false) (text : Text) :
    s.app.Written text (s.step (.type text)).app ∧
      (s.step (.type text)).focus = some .entry := by
  have hApplied : s.app.Written text (s.applied (.type text)) := by
    cases text with
    | nil => exact .refl s.app
    | cons c text =>
        have hCommand : (s.react (.type (c :: text))).command =
            some (.edit (s.app.calculator.entry ++ c :: text)) := by
          simp [react, hFocus, fill, content]
        rw [applied_of_command hCommand]
        exact App.written_edit hOpen (c :: text)
  refine ⟨written_step hApplied, ?_⟩
  show (settle ⟨_, s.focus⟩).focus = _
  rw [hFocus]
  exact focus_settle_entry _

/-- **A text typed into the entry field in pieces is written as a whole.** -/
theorem written_types (hFocus : s.focus = some .entry)
    (hOpen : s.app.calculator.readout.isFinal = false) (pieces : List Text) :
    s.app.Written pieces.flatten (s.run (pieces.map .type)).app ∧
      (s.run (pieces.map .type)).focus = some .entry := by
  induction pieces generalizing s with
  | nil => exact ⟨.refl s.app, hFocus⟩
  | cons piece pieces ih =>
      obtain ⟨hPiece, hKept⟩ := written_type hFocus hOpen piece
      obtain ⟨hRest, hLast⟩ := ih hKept (hPiece.not_final hOpen)
      exact ⟨hPiece.trans hRest, hLast⟩

/-! ## Evaluating what is written -/

/-- **Evaluating a written text** settles the wish for the focus, whichever way the
text was written and the evaluation was asked for. -/
theorem step_of_written {a : App} {g : Gesture} (h : a.Written text s.app)
    (hTab : a.tab = .calculator) (hText : ∃ c ∈ text, Text.isBlank c = false)
    (hEvaluates : s.Evaluates g) :
    s.step g = ⟨{ a with
      calculator := (a.calculator.write text).evaluate
      keypad := s.app.keypad
      wantsFocus := false }, some .entry⟩ := by
  have hCommand := react_command_eq_evaluate_iff.2 hEvaluates
  show settle ⟨s.applied g, (s.react g).focus⟩ = _
  rw [applied_of_command hCommand]
  obtain ⟨keypad, wantsFocus, hApp⟩ := h
  have hBlank : (a.calculator.write text).isBlank = false := by
    obtain ⟨c, hMem, hVisible⟩ := hText
    exact Calculator.isBlank_eq_false_iff.2 ⟨c, List.mem_append_right _ hMem, hVisible⟩
  have hDue : (s.app.perform .evaluate).tab = .calculator ∧
      (s.app.perform .evaluate).wantsFocus = true := by
    rw [hApp]
    exact ⟨hTab, by simp [App.perform, hBlank]⟩
  rw [settle, if_pos hDue, hApp]
  rfl

end Screen

/-- **Clicking is typing.** On the calculator's tab, with the focus in the entry
field and no final value, any keys that insert a text can be clicked. Clicking
them, in whatever way they are reached, and then the key that evaluates leads to
the same screen as typing their texts, in whatever pieces, and pressing Enter: to
the same entry, readout, history and focus, and to the same state apart from the
keypad shown. -/
theorem clicking_is_typing (s : Screen) (hTab : s.app.tab = .calculator)
    (hFocus : s.focus = some .entry) (hOpen : s.app.calculator.readout.isFinal = false)
    (keys : List Key) (hNonempty : keys ≠ []) (hKeys : ∀ key ∈ keys, key.Inserts) :
    (∃ gestures, s.app.keypad.Clicks gestures keys) ∧
    ∀ (gestures : List Gesture) (pieces : List Text),
      s.app.keypad.Clicks gestures keys → pieces.flatten = Key.joined keys →
      let clicked := s.run (gestures ++ [.key Key.equals.label])
      let typed := s.run (pieces.map .type ++ [.enter])
      clicked.app.calculator = typed.app.calculator ∧ clicked.focus = typed.focus ∧
        clicked.app = { typed.app with keypad := clicked.app.keypad } := by
  refine ⟨s.app.keypad.exists_clicks hKeys, ?_⟩
  intro gestures pieces hClicks hPieces clicked typed
  have hText := Key.exists_visible_joined hNonempty hKeys
  have hClicked := Screen.written_clicks hClicks rfl hTab hOpen
  obtain ⟨hTyped, hKept⟩ := Screen.written_types hFocus hOpen pieces
  rw [hPieces] at hTyped
  have hLeft : clicked = _ :=
    (s.run_append gestures [.key Key.equals.label]).trans
      (Screen.step_of_written hClicked hTab hText (.inl ⟨rfl, hClicked.tab_eq.trans hTab⟩))
  have hRight : typed = _ :=
    (s.run_append (pieces.map .type) [.enter]).trans
      (Screen.step_of_written hTyped hTab hText (.inr ⟨rfl, hKept⟩))
  rw [hLeft, hRight]
  exact ⟨rfl, rfl, rfl⟩

/-- A group is clicked behind what was typed, its digit on the one keypad and its
parentheses on the other. -/
theorem clicking_is_typing_group :
    let s := (Screen.start .default false).run [.fillEntry "2×".toList]
    let keys : List Key := [.plain '(', .plain '3', .plain ')']
    let clicked := s.run [.key "Basique", .key "(", .key "Scientifique", .key "3",
      .key "Basique", .key ")", .key "="]
    let typed := s.run [.type "(3)".toList, .enter]
    s.app.tab = .calculator ∧ s.focus = some .entry ∧
      s.app.calculator.readout.isFinal = false ∧ keys ≠ [] ∧ (∀ key ∈ keys, key.Inserts) ∧
      clicked.app.calculator = typed.app.calculator ∧ clicked.focus = typed.focus ∧
      typed.app.calculator.readout = .value "6".toList true := by
  intro s keys clicked typed
  have hTab : s.app.tab = .calculator := by decide
  have hFocus : s.focus = some .entry := by decide
  have hOpen : s.app.calculator.readout.isFinal = false := by decide
  have hNonempty : keys ≠ [] := by simp [keys]
  have hKeys : ∀ key ∈ keys, key.Inserts := by decide
  have hClosing : Keypad.scientific.Clicks [.key ")"] [.plain ')'] :=
    @Keypad.Clicks.press _ (.plain ')') _ _ (by decide) rfl .done
  have hDigit : Keypad.basic.Clicks [.key "3", .key "Basique", .key ")"]
      [.plain '3', .plain ')'] :=
    @Keypad.Clicks.press _ (.plain '3') _ _ (by decide) rfl (.change hClosing)
  have hClicks : Keypad.basic.Clicks [.key "Basique", .key "(", .key "Scientifique", .key "3",
      .key "Basique", .key ")"] keys :=
    .change (@Keypad.Clicks.press _ (.plain '(') _ _ (by decide) rfl (.change hDigit))
  have hKeypad : s.app.keypad = .basic := by decide
  have hPieces : ["(3)".toList].flatten = Key.joined keys := by decide
  obtain ⟨-, hSame⟩ := clicking_is_typing s hTab hFocus hOpen keys hNonempty hKeys
  obtain ⟨hCalculator, hShown, -⟩ := hSame _ _ (hKeypad ▸ hClicks) hPieces
  have hValue : typed.app.calculator.readout = .value "6".toList true := by decide +kernel
  have hLeft : clicked = s.run ([.key "Basique", .key "(", .key "Scientifique", .key "3",
      .key "Basique", .key ")"] ++ [.key Key.equals.label]) := rfl
  have hRight : typed = s.run (["(3)".toList].map .type ++ [.enter]) := rfl
  rw [← hLeft, ← hRight] at hCalculator hShown
  exact ⟨hTab, hFocus, hOpen, hNonempty, hKeys, hCalculator, hShown, hValue⟩

end DeskCalc
