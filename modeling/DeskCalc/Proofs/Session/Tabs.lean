import DeskCalc.Proofs.Session.Run

/-!
# What a tab keeps to itself

The calculator and the converter share one keyboard. A wish for the focus can
wait through any number of gestures in the other tab, and Escape, the bar and the
history panel act in both; still nothing that is typed ever reaches a field that
is not shown. The invariant says where the focus may be. It is kept because a
gesture that changes the tab takes the focus away, and because the focus is given
to the entry field only while the calculator's tab is shown.

What a step may change in either tab then follows from the list of all causes.

## Main results

* `Screen.FocusShown.step` — only a field that is shown has the focus.
* `Screen.FocusShown.staysInTab` — what a gesture leaves alone in either tab.
* `input_stays_in_tab` — both along whole runs.
-/

namespace DeskCalc

/-- The tab that a field belongs to. -/
def Field.tab : Field → Tab
  | .entry => .calculator
  | .amount => .converter

/-- Only a command for it changes the tab. -/
theorem App.tab_perform {a : App} {command : Command} (h : ∀ tab, command ≠ .showTab tab) :
    (a.perform command).tab = a.tab := by
  cases command with
  | showTab tab => exact absurd rfl (h tab)
  | reuse number =>
      show (a.reuse number).tab = a.tab
      unfold reuse
      split <;> rfl
  | chooseCategory category =>
      show (if category = a.converter.category then a else _ : App).tab = a.tab
      split <;> rfl
  | _ => rfl

namespace Screen

/-- Only a field that is shown has the focus. -/
def FocusShown (s : Screen) : Prop := ∀ field, s.focus = some field → field.tab = s.app.tab

/-! ## The focus -/

/-- A gesture with a reaction like this keeps the focus to fields that are shown:
if any field has the focus afterwards, it belongs to the tab, and the tab is not
changed. -/
def KeepsShown (s : Screen) (r : Reaction) : Prop :=
  ∀ field, r.focus = some field →
    field.tab = s.app.tab ∧ ∀ tab, r.command ≠ some (.showTab tab)

section KeepsShown

variable {s : Screen}

/-- A gesture that leaves the focus where it is and causes no command. -/
theorem FocusShown.idle (h : s.FocusShown) (done : Bool) :
    s.KeepsShown ⟨done, s.focus, none⟩ := by
  intro field hFocus
  exact ⟨h field hFocus, by simp⟩

theorem keepsShown_unfocused (done : Bool) (command : Option Command) :
    s.KeepsShown ⟨done, none, command⟩ := by
  rintro field ⟨⟩

theorem FocusShown.clickedIf (h : s.FocusShown) (command? : Option Command) :
    s.KeepsShown (s.clickedIf command?) := by
  cases command? with
  | none => exact h.idle false
  | some command => exact keepsShown_unfocused true (some command)

theorem FocusShown.onTab (h : s.FocusShown) {tab : Tab} {r : Reaction}
    (hShown : s.app.tab = tab → s.KeepsShown r) : s.KeepsShown (s.onTab tab r) := by
  unfold Screen.onTab
  split
  next hTab => exact hShown hTab
  next => exact h.idle false

theorem fill_ne_showTab (field : Field) (text : Text) (tab : Tab) :
    s.fill field text ≠ some (.showTab tab) := by
  cases field with
  | entry =>
      intro hFill
      cases fill_entry hFill
  | amount => simp [fill]

/-- Typing into a field that is shown changes nothing about the tab. -/
theorem keepsShown_fill (field : Field) (hTab : field.tab = s.app.tab) (text : Text) :
    s.KeepsShown ⟨true, some field, s.fill field text⟩ := by
  rintro _ ⟨⟩
  exact ⟨hTab, fill_ne_showTab field text⟩

/-- **Every gesture keeps the focus to fields that are shown.** -/
theorem FocusShown.react (h : s.FocusShown) (g : Gesture) : s.KeepsShown (s.react g) := by
  have hTyped (text : Field → Text) : s.KeepsShown
      ⟨true, s.focus, s.focus.bind fun field => s.fill field (text field)⟩ := by
    cases hFocus : s.focus with
    | none => exact keepsShown_unfocused true none
    | some field => exact keepsShown_fill field (h field hFocus) (text field)
  cases g with
  | click label => exact h.clickedIf _
  | key label => exact h.onTab fun _ => h.clickedIf _
  | pickEntry position => exact h.clickedIf _
  | pickUnit list label => exact h.onTab fun _ => keepsShown_unfocused _ _
  | fillEntry text => exact h.onTab fun hTab => keepsShown_fill .entry hTab.symm text
  | fillAmount text => exact h.onTab fun hTab => keepsShown_fill .amount hTab.symm text
  | type text =>
      cases text with
      | nil => exact h.idle true
      | cons c text => exact hTyped fun field => s.content field ++ c :: text
  | backspace => exact hTyped fun field => (s.content field).dropLast
  | enter => exact keepsShown_unfocused _ _
  | escape => exact keepsShown_unfocused _ _

end KeepsShown

theorem FocusShown.settle {s : Screen} (h : s.FocusShown) : s.settle.FocusShown := by
  unfold Screen.settle
  split
  next hDue =>
    rintro _ ⟨⟩
    exact hDue.1.symm
  next => exact h

theorem focusShown_start (settings : Settings) (systemDark : Bool) :
    (start settings systemDark).FocusShown := by
  apply FocusShown.settle
  rintro _ ⟨⟩

/-- **Only a field that is shown has the focus**, after any gesture. -/
theorem FocusShown.step {s : Screen} (h : s.FocusShown) (g : Gesture) :
    (s.step g).FocusShown := by
  apply FocusShown.settle
  intro field hFocus
  obtain ⟨hField, hTab⟩ := h.react g field hFocus
  have hSame : (s.applied g).tab = s.app.tab := by
    unfold applied
    cases hCommand : (s.react g).command with
    | none => rfl
    | some command =>
        apply App.tab_perform
        rintro tab rfl
        exact hTab tab hCommand
  exact hField.trans hSame.symm

theorem focusShown_run (settings : Settings) (systemDark : Bool) (gestures : List Gesture) :
    ((start settings systemDark).run gestures).FocusShown :=
  run_preserves (P := FocusShown) (fun _ g h => h.step g) (focusShown_start settings systemDark)
    gestures

/-! ## What is left alone -/

/-- What the gesture leaves alone, in the tab in which it is made. -/
structure StaysInTab (s : Screen) (g : Gesture) : Prop where
  /-- In the calculator's tab the converter stays as it is. -/
  converter : s.app.tab = .calculator → (s.step g).app.converter = s.app.converter
  /-- In the converter's tab only Escape and a click on a listed entry change the
  entry or the readout. -/
  entry : s.app.tab = .converter →
    ((s.step g).app.calculator.entry ≠ s.app.calculator.entry ∨
      (s.step g).app.calculator.readout ≠ s.app.calculator.readout) →
    g = .escape ∨ ∃ position, g = .pickEntry position ∧ s.app.panelOpen = true ∧
      position < s.app.calculator.history.entries.length
  /-- There only the button of the panel changes the history. -/
  history : s.app.tab = .converter →
    (s.step g).app.calculator.history ≠ s.app.calculator.history →
    g = .click "🗑" ∧ s.app.panelOpen = true
  /-- And nothing there evaluates. -/
  evaluation : s.app.tab = .converter → (s.react g).command ≠ some .evaluate

section StaysInTab

variable {s : Screen} {g : Gesture} {command : Command}

theorem Causes.converter_perform (h : s.Causes g command) (hShown : s.FocusShown)
    (hTab : s.app.tab = .calculator) :
    s.app.converter.perform command = s.app.converter := by
  have hOther : s.app.tab ≠ .converter := by simp [hTab]
  cases h with
  | button hButton =>
      cases hButton with
      | category hHere => exact absurd hHere hOther
      | _ => rfl
  | @key k =>
      cases k <;> rfl
  | pickSource hHere => exact absurd hHere hOther
  | pickTarget hHere => exact absurd hHere hOther
  | fillAmount hHere => exact absurd hHere hOther
  | typeAmount hFocus => exact absurd (hShown .amount hFocus).symm hOther
  | eraseAmount hFocus => exact absurd (hShown .amount hFocus).symm hOther
  | _ => rfl

/-- What a gesture in the converter's tab can do to the calculator. -/
theorem Causes.calculator_perform (h : s.Causes g command) (hShown : s.FocusShown)
    (hTab : s.app.tab = .converter) :
    s.app.calculator.perform command = s.app.calculator ∨
    (g = .escape ∧ command = .clear) ∨
    (∃ position number, g = .pickEntry position ∧ s.app.panelOpen = true ∧
      position < s.app.calculator.history.entries.length ∧ command = .reuse number) ∨
    (g = .click "🗑" ∧ s.app.panelOpen = true ∧ command = .clearHistory) := by
  have hOther : s.app.tab ≠ .calculator := by simp [hTab]
  cases h with
  | button hButton =>
      cases hButton with
      | forget hOpen => exact .inr (.inr (.inr ⟨rfl, hOpen, rfl⟩))
      | _ => exact .inl rfl
  | pickEntry hOpen hEntry =>
      obtain ⟨hBound, -⟩ := List.getElem?_eq_some_iff.1 hEntry
      exact .inr (.inr (.inl ⟨_, _, rfl, hOpen, hBound, rfl⟩))
  | escape => exact .inr (.inl ⟨rfl, rfl⟩)
  | key hHere => exact absurd hHere hOther
  | fillEntry hHere => exact absurd hHere hOther
  | typeEntry hFocus => exact absurd (hShown .entry hFocus).symm hOther
  | eraseEntry hFocus => exact absurd (hShown .entry hFocus).symm hOther
  | enter hFocus => exact absurd (hShown .entry hFocus).symm hOther
  | _ => exact .inl rfl

/-- What becomes of the calculator in the converter's tab. -/
theorem FocusShown.calculator_cases (h : s.FocusShown) (hTab : s.app.tab = .converter)
    (g : Gesture) :
    (s.step g).app.calculator = s.app.calculator ∨
    (g = .escape ∧ (s.step g).app.calculator = s.app.calculator.clear) ∨
    (∃ position number, g = .pickEntry position ∧ s.app.panelOpen = true ∧
      position < s.app.calculator.history.entries.length ∧
      (s.step g).app.calculator = s.app.calculator.reuse number) ∨
    (g = .click "🗑" ∧ s.app.panelOpen = true ∧
      (s.step g).app.calculator = s.app.calculator.clearHistory) := by
  rw [calculator_step]
  cases hCommand : (s.react g).command with
  | none => exact .inl rfl
  | some command =>
      rcases (causes_of_react hCommand).calculator_perform h hTab with
        hSame | ⟨rfl, rfl⟩ | ⟨position, number, rfl, hOpen, hBound, rfl⟩ | ⟨rfl, hOpen, rfl⟩
      · exact .inl hSame
      · exact .inr (.inl ⟨rfl, rfl⟩)
      · exact .inr (.inr (.inl ⟨position, number, rfl, hOpen, hBound, rfl⟩))
      · exact .inr (.inr (.inr ⟨rfl, hOpen, rfl⟩))

/-- **What a gesture leaves alone in either tab.** -/
theorem FocusShown.staysInTab (h : s.FocusShown) (g : Gesture) : s.StaysInTab g where
  converter := by
    intro hTab
    rw [converter_step]
    cases hCommand : (s.react g).command with
    | none => rfl
    | some command => exact (causes_of_react hCommand).converter_perform h hTab
  entry := by
    intro hTab hChanged
    rcases h.calculator_cases hTab g with
      hSame | ⟨rfl, -⟩ | ⟨position, number, rfl, hOpen, hBound, -⟩ | ⟨-, -, hForgotten⟩
    · simp [hSame] at hChanged
    · exact .inl rfl
    · exact .inr ⟨position, rfl, hOpen, hBound⟩
    · simp [hForgotten, Calculator.clearHistory] at hChanged
  history := by
    intro hTab hChanged
    rcases h.calculator_cases hTab g with
      hSame | ⟨-, hCleared⟩ | ⟨position, number, -, -, -, hReused⟩ | ⟨rfl, hOpen, -⟩
    · simp [hSame] at hChanged
    · simp [hCleared, Calculator.clear] at hChanged
    · simp [hReused, Calculator.history_reuse] at hChanged
    · exact ⟨rfl, hOpen⟩
  evaluation := by
    intro hTab hCommand
    rcases react_command_eq_evaluate_iff.1 hCommand with ⟨rfl, hHere⟩ | ⟨rfl, hFocus⟩
    · rw [hTab] at hHere
      contradiction
    · have hHere := h .entry hFocus
      rw [hTab] at hHere
      contradiction

end StaysInTab

end Screen

/-- **What is typed stays in the tab that is shown.** At every moment of a run at
the screen the entry field has the focus only in the calculator's tab and the
amount field only in the converter's. Whatever is done next leaves the converter
alone in the calculator's tab; in the converter's tab it evaluates nothing,
changes the entry and the readout only by Escape or a click on a listed entry,
and the history only by the button that empties it. -/
theorem input_stays_in_tab (settings : Settings) (systemDark : Bool) (gestures : List Gesture) :
    let s := (Screen.start settings systemDark).run gestures
    (s.focus = some .entry → s.app.tab = .calculator) ∧
    (s.focus = some .amount → s.app.tab = .converter) ∧
    ∀ g, s.StaysInTab g := by
  intro s
  have hShown : s.FocusShown := Screen.focusShown_run settings systemDark gestures
  exact ⟨fun hFocus => (hShown .entry hFocus).symm, fun hFocus => (hShown .amount hFocus).symm,
    hShown.staysInTab⟩

/-- With the panel open in the converter's tab, a listed entry is taken up and the
history is emptied, while Enter does nothing; and what is typed at the start goes to
the calculator. -/
theorem input_stays_in_tab_panel :
    let s := (Screen.start .default false).run
      [.fillEntry "6/4".toList, .enter, .click "Historique", .click "Conv",
        .fillAmount "2".toList]
    (s.focus = some .amount ∧ s.app.tab = .converter) ∧
    ((s.step (.pickEntry 0)).app.calculator.entry ≠ s.app.calculator.entry ∧
      ∃ position, Gesture.pickEntry 0 = .pickEntry position ∧ s.app.panelOpen = true ∧
        position < s.app.calculator.history.entries.length) ∧
    ((s.step (.click "🗑")).app.calculator.history ≠ s.app.calculator.history ∧
      s.app.panelOpen = true) ∧
    (s.react .enter).command ≠ some .evaluate ∧
    let first := Screen.start .default false
    (first.focus = some .entry ∧ first.app.tab = .calculator) ∧
      (first.step (.type "7".toList)).app.converter = first.app.converter := by
  intro s
  have hFocus : s.focus = some .amount := by decide +kernel
  have hEntry : (s.step (.pickEntry 0)).app.calculator.entry ≠ s.app.calculator.entry := by
    decide +kernel
  have hHistory : (s.step (.click "🗑")).app.calculator.history ≠ s.app.calculator.history := by
    decide +kernel
  obtain ⟨-, hAmount, hStays⟩ := input_stays_in_tab .default false
    [.fillEntry "6/4".toList, .enter, .click "Historique", .click "Conv", .fillAmount "2".toList]
  have hTab : s.app.tab = .converter := hAmount hFocus
  have hPicked := (hStays (.pickEntry 0)).entry hTab (.inl hEntry)
  have hForgotten := (hStays (.click "🗑")).history hTab hHistory
  have hNothing := (hStays .enter).evaluation hTab
  obtain ⟨hShown, -, hTyped⟩ := input_stays_in_tab .default false []
  refine ⟨⟨hFocus, hTab⟩, ⟨hEntry, ?_⟩, ⟨hHistory, hForgotten.2⟩, hNothing,
    ⟨rfl, hShown rfl⟩, (hTyped (.type "7".toList)).converter (hShown rfl)⟩
  rcases hPicked with hEscape | hPosition
  · cases hEscape
  · exact hPosition

-- The wish of the history panel for the focus waits until the calculator is shown again.
example :
    let s := (Screen.start .default false).run
      [.fillEntry "6/4".toList, .enter, .click "Historique", .click "Conv",
        .fillAmount "2".toList, .pickEntry 0, .type "7".toList, .enter]
    s.app.calculator.entry = "1.5".toList ∧ s.app.converter.amount = "2".toList ∧
      s.focus = none ∧ (s.step (.click "Calc")).focus = some .entry := by
  decide +kernel

end DeskCalc
