import DeskCalc.Proofs.Session.Step
import DeskCalc.Session.Screen

/-!
# What one gesture does

A gesture reaches the state through at most one command; giving the focus to
the entry field afterwards changes nothing but the wish for it. `App.Offers` and
`Screen.Causes` list all the ways in which a command can be caused, by buttons,
keys, lists, typing and the keyboard, each with what has to be on the screen for
it. What a gesture cannot do is read off that list; so only two gestures evaluate
the entry, the key for it and Enter in the entry field.

## Main results

* `Screen.calculator_step`, `Screen.converter_step` — a gesture does to the
  calculator and to the converter what its command does.
* `Screen.causes_of_react` — every command of a gesture is on the list.
* `Screen.react_command_eq_evaluate_iff` — the gestures that evaluate.
* `Screen.settled_step`, `Screen.Settled.app_step` — no wish for the focus stays
  open, so a gesture without an effect leaves the whole state as it is.
-/

namespace DeskCalc

namespace App

/-- The buttons that can be on the screen, keys left out, and when each is. -/
inductive Offers (a : App) : Button → Prop where
  | calculatorTab : Offers a ⟨"Calc", .showTab .calculator⟩
  | converterTab : Offers a ⟨"Conv", .showTab .converter⟩
  | theme (label : String) : Offers a ⟨label, .toggleTheme⟩
  | panel (hTab : a.tab = .calculator) : Offers a ⟨"Historique", .setPanel !a.panelOpen⟩
  | close (hOpen : a.panelOpen = true) : Offers a ⟨"✖", .setPanel false⟩
  | forget (hOpen : a.panelOpen = true) : Offers a ⟨"🗑", .clearHistory⟩
  | category (hTab : a.tab = .converter) (c : Category) : Offers a ⟨c.label, .chooseCategory c⟩

theorem offers_of_mem_buttons {a : App} {b : Button} (h : b ∈ a.buttons) : a.Offers b := by
  rcases List.mem_append.1 h with hMem | hMem
  · rcases List.mem_append.1 hMem with hMem | hMem
    · rcases List.mem_append.1 hMem with hBar | hBar
      · simp only [List.mem_cons, List.not_mem_nil, or_false] at hBar
        rcases hBar with rfl | rfl | rfl
        · exact .calculatorTab
        · exact .converterTab
        · exact .theme _
      · cases hTab : a.tab with
        | calculator =>
            rw [hTab] at hBar
            rw [List.mem_singleton.1 hBar]
            exact .panel hTab
        | converter =>
            rw [hTab] at hBar
            cases hBar
    · unfold panelButtons at hMem
      split at hMem
      next hOpen =>
        rcases List.mem_cons.1 hMem with rfl | hForget
        · exact .close hOpen
        · unfold forgetButtons at hForget
          split at hForget
          · cases hForget
          · rw [List.mem_singleton.1 hForget]
            exact .forget hOpen
      next => cases hMem
  · unfold tabButtons at hMem
    cases hTab : a.tab with
    | calculator =>
        rw [hTab] at hMem
        cases hMem
    | converter =>
        rw [hTab] at hMem
        obtain ⟨c, -, rfl⟩ := List.mem_map.1 hMem
        exact .category hTab c

/-- No button evaluates. -/
theorem Offers.command_ne_evaluate {a : App} {b : Button} (h : a.Offers b) :
    b.command ≠ .evaluate := by
  cases h <;> simp

end App

namespace Key

theorem command_eq_evaluate_iff {k : Key} : k.command = .evaluate ↔ k = .equals := by
  cases k <;> simp [command]

end Key

namespace Keypad

/-- A key is found under its own label. -/
theorem key?_label {k : Keypad} {key : Key} (h : key ∈ k.keys) : k.key? key.label = some key := by
  revert key
  cases k <;> decide

theorem label_ne_key {k : Keypad} {key : Key} (h : key ∈ k.keys) : key.label ≠ k.label := by
  revert key
  cases k <;> decide

theorem equals_mem_keys (k : Keypad) : Key.equals ∈ k.keys := by
  cases k <;> decide

end Keypad

namespace Screen

/-! ## The focus -/

/-- Giving the focus takes the wish for it away, or nothing is due. -/
theorem app_settle (s : Screen) :
    s.settle.app = s.app ∨ s.settle.app = s.app.perform .dropFocus := by
  unfold settle
  split
  · exact .inr rfl
  · exact .inl rfl

/-- The entry field, if it is shown, has got the focus it was to get. -/
def Settled (s : Screen) : Prop := s.app.tab = .calculator → s.app.wantsFocus = false

theorem settled_settle (s : Screen) : s.settle.Settled := by
  intro hTab
  unfold settle at hTab ⊢
  split
  next => rfl
  next hDue =>
    rw [if_neg hDue] at hTab
    simpa [hTab] using hDue

theorem Settled.settle_eq {s : Screen} (h : s.Settled) : s.settle = s := by
  unfold settle
  rw [if_neg]
  rintro ⟨hTab, hWants⟩
  rw [h hTab] at hWants
  contradiction

theorem settled_start (settings : Settings) (systemDark : Bool) :
    (start settings systemDark).Settled :=
  settled_settle _

theorem settled_step (s : Screen) (g : Gesture) : (s.step g).Settled :=
  settled_settle _

/-! ## The state -/

/-- The state after the command of a gesture, before the focus is given. -/
def applied (s : Screen) (g : Gesture) : App := (s.react g).command.elim s.app s.app.perform

theorem applied_of_command {s : Screen} {g : Gesture} {command : Command}
    (h : (s.react g).command = some command) : s.applied g = s.app.perform command := by
  simp [applied, h]

/-- A gesture has the state carry out its command and then, it may be, give up
the wish for the focus. -/
theorem app_step (s : Screen) (g : Gesture) :
    (s.step g).app = s.applied g ∨ (s.step g).app = (s.applied g).perform .dropFocus :=
  app_settle ⟨s.applied g, (s.react g).focus⟩

/-- A gesture whose command leaves a settled state as it is has no effect on
it. -/
theorem Settled.app_step {s : Screen} (hSettled : s.Settled) {g : Gesture}
    (h : s.applied g = s.app) : (s.step g).app = s.app := by
  have hSame : Settled ⟨s.applied g, (s.react g).focus⟩ := by
    rw [h]
    exact hSettled
  show (settle ⟨s.applied g, (s.react g).focus⟩).app = s.app
  rw [hSame.settle_eq]
  exact h

/-- Whatever takes no notice of the wish for the focus is as the command left it. -/
theorem field_step {α : Type} (field : App → α)
    (hField : ∀ a : App, field (a.perform .dropFocus) = field a) (s : Screen) (g : Gesture) :
    field (s.step g).app = field (s.applied g) := by
  rcases s.app_step g with hStep | hStep
  · rw [hStep]
  · rw [hStep, hField]

/-- **A gesture does to the calculator what its command does.** -/
theorem calculator_step (s : Screen) (g : Gesture) :
    (s.step g).app.calculator =
      (s.react g).command.elim s.app.calculator s.app.calculator.perform := by
  rw [field_step App.calculator (fun _ => rfl), applied]
  cases (s.react g).command with
  | none => rfl
  | some command => exact s.app.calculator_perform command

/-- **A gesture does to the converter what its command does.** -/
theorem converter_step (s : Screen) (g : Gesture) :
    (s.step g).app.converter =
      (s.react g).command.elim s.app.converter s.app.converter.perform := by
  rw [field_step App.converter (fun _ => rfl), applied]
  cases (s.react g).command with
  | none => rfl
  | some command => exact s.app.converter_perform command

/-! ## The commands of gestures -/

/-- All the ways in which a gesture causes a command. -/
inductive Causes (s : Screen) : Gesture → Command → Prop where
  | button {b : Button} (hShown : s.app.Offers b) : Causes s (.click b.label) b.command
  | changeKeypad (hTab : s.app.tab = .calculator) : Causes s (.key s.app.keypad.label) .toggleKeypad
  | key {k : Key} (hTab : s.app.tab = .calculator) (hKey : k ∈ s.app.keypad.keys) :
      Causes s (.key k.label) k.command
  | pickEntry {position : Nat} {e : Entry} (hOpen : s.app.panelOpen = true)
      (hEntry : s.app.calculator.history.entries[position]? = some e) :
      Causes s (.pickEntry position) (.reuse e.number)
  | pickSource {u : MeasureUnit} (hTab : s.app.tab = .converter)
      (hUnit : u ∈ s.app.converter.category.units) :
      Causes s (.pickUnit .source u.label) (.chooseSource u)
  | pickTarget {u : MeasureUnit} (hTab : s.app.tab = .converter)
      (hUnit : u ∈ s.app.converter.category.units) :
      Causes s (.pickUnit .target u.label) (.chooseTarget u)
  | fillEntry {text : Text} (hTab : s.app.tab = .calculator) :
      Causes s (.fillEntry text) (.edit text)
  | fillAmount {text : Text} (hTab : s.app.tab = .converter) :
      Causes s (.fillAmount text) (.setAmount text)
  | typeEntry {text : Text} (hFocus : s.focus = some .entry) (hText : text ≠ []) :
      Causes s (.type text) (.edit (s.app.calculator.entry ++ text))
  | typeAmount {text : Text} (hFocus : s.focus = some .amount) (hText : text ≠ []) :
      Causes s (.type text) (.setAmount (s.app.converter.amount ++ text))
  | eraseEntry (hFocus : s.focus = some .entry) :
      Causes s .backspace (.edit s.app.calculator.entry.dropLast)
  | eraseAmount (hFocus : s.focus = some .amount) :
      Causes s .backspace (.setAmount s.app.converter.amount.dropLast)
  | enter (hFocus : s.focus = some .entry) : Causes s .enter .evaluate
  | escape : Causes s .escape .clear

theorem clickedIf_command (s : Screen) (command? : Option Command) :
    (s.clickedIf command?).command = command? := by
  cases command? <;> rfl

theorem onTab_command_eq_some_iff {s : Screen} {tab : Tab} {r : Reaction} {command : Command} :
    (s.onTab tab r).command = some command ↔ s.app.tab = tab ∧ r.command = some command := by
  unfold onTab
  split <;> simp_all [missed]

theorem fill_entry {s : Screen} {text : Text} {command : Command}
    (h : s.fill .entry text = some command) : command = .edit text := by
  change (if _ then none else some (Command.edit text)) = _ at h
  split at h
  · cases h
  · exact (Option.some.inj h).symm

theorem keyCommand?_cases {s : Screen} {label : String} {command : Command}
    (h : s.keyCommand? label = some command) :
    (label = s.app.keypad.label ∧ command = .toggleKeypad) ∨
      ∃ k ∈ s.app.keypad.keys, k.label = label ∧ k.command = command := by
  unfold keyCommand? at h
  split at h
  next hLabel => exact .inl ⟨hLabel, (Option.some.inj h).symm⟩
  next =>
    obtain ⟨k, hKey, hCommand⟩ := Option.map_eq_some_iff.1 h
    have hLabel : k.label = label := by simpa using List.find?_some hKey
    exact .inr ⟨k, List.mem_of_find?_eq_some hKey, hLabel, hCommand⟩

/-- **Every command of a gesture is on the list.** -/
theorem causes_of_react {s : Screen} {g : Gesture} {command : Command}
    (h : (s.react g).command = some command) : s.Causes g command := by
  cases g with
  | click label =>
      change (s.clickedIf _).command = _ at h
      rw [clickedIf_command] at h
      obtain ⟨b, hFind, rfl⟩ := Option.map_eq_some_iff.1 h
      have hLabel : b.label = label := by simpa using List.find?_some hFind
      rw [← hLabel]
      exact .button (App.offers_of_mem_buttons (List.mem_of_find?_eq_some hFind))
  | key label =>
      obtain ⟨hTab, hKey⟩ := onTab_command_eq_some_iff.1 h
      rw [clickedIf_command] at hKey
      rcases keyCommand?_cases hKey with ⟨rfl, rfl⟩ | ⟨k, hMem, rfl, rfl⟩
      · exact .changeKeypad hTab
      · exact .key hTab hMem
  | pickEntry position =>
      change (s.clickedIf (s.entryCommand? position)).command = _ at h
      rw [clickedIf_command, entryCommand?] at h
      split at h
      next hOpen =>
        obtain ⟨e, hEntry, rfl⟩ := Option.map_eq_some_iff.1 h
        exact .pickEntry hOpen hEntry
      next => cases h
  | pickUnit list label =>
      obtain ⟨hTab, hUnit⟩ := onTab_command_eq_some_iff.1 h
      obtain ⟨u, hFind, rfl⟩ := Option.map_eq_some_iff.1 hUnit
      have hLabel : u.label = label := by simpa using List.find?_some hFind
      have hMem := List.mem_of_find?_eq_some hFind
      rw [← hLabel]
      cases list with
      | source => exact .pickSource hTab hMem
      | target => exact .pickTarget hTab hMem
  | fillEntry text =>
      obtain ⟨hTab, hFill⟩ := onTab_command_eq_some_iff.1 h
      rw [fill_entry hFill]
      exact .fillEntry hTab
  | fillAmount text =>
      obtain ⟨hTab, hFill⟩ := onTab_command_eq_some_iff.1 h
      cases hFill
      exact .fillAmount hTab
  | type text =>
      cases text with
      | nil => cases h
      | cons c text =>
          obtain ⟨field, hFocus, hFill⟩ := Option.bind_eq_some_iff.1 h
          cases field with
          | entry =>
              rw [fill_entry hFill]
              exact .typeEntry hFocus (List.cons_ne_nil c text)
          | amount =>
              cases hFill
              exact .typeAmount hFocus (List.cons_ne_nil c text)
  | backspace =>
      obtain ⟨field, hFocus, hFill⟩ := Option.bind_eq_some_iff.1 h
      cases field with
      | entry =>
          rw [fill_entry hFill]
          exact .eraseEntry hFocus
      | amount =>
          cases hFill
          exact .eraseAmount hFocus
  | enter =>
      change (if s.focus = some .entry then some Command.evaluate else none) = _ at h
      split at h
      next hFocus =>
        cases h
        exact .enter hFocus
      next => cases h
  | escape =>
      cases h
      exact .escape

/-- A click on a key of the keypad shown carries out the key's command. -/
theorem react_key {s : Screen} (hTab : s.app.tab = .calculator) {k : Key}
    (hKey : k ∈ s.app.keypad.keys) : s.react (.key k.label) = clicked k.command := by
  show s.onTab .calculator (s.clickedIf (s.keyCommand? k.label)) = _
  rw [onTab, if_pos hTab, keyCommand?, if_neg (Keypad.label_ne_key hKey), Keypad.key?_label hKey]
  rfl

/-- A click on the button for it changes the keypad. -/
theorem react_changeKeypad {s : Screen} (hTab : s.app.tab = .calculator) :
    s.react (.key s.app.keypad.label) = clicked .toggleKeypad := by
  show s.onTab .calculator (s.clickedIf (s.keyCommand? s.app.keypad.label)) = _
  rw [onTab, if_pos hTab, keyCommand?, if_pos rfl]
  rfl

/-! ## The gestures that evaluate -/

/-- The gesture evaluates the entry: the key for it, on the calculator's tab, or
Enter while the entry field has the focus. -/
def Evaluates (s : Screen) (g : Gesture) : Prop :=
  (g = .key Key.equals.label ∧ s.app.tab = .calculator) ∨ (g = .enter ∧ s.focus = some .entry)

theorem Causes.evaluates {s : Screen} {g : Gesture} {command : Command}
    (h : s.Causes g command) (hCommand : command = .evaluate) : s.Evaluates g := by
  cases h with
  | button hShown => exact absurd hCommand hShown.command_ne_evaluate
  | key hTab hKey =>
      rw [Key.command_eq_evaluate_iff] at hCommand
      rw [hCommand]
      exact .inl ⟨rfl, hTab⟩
  | enter hFocus => exact .inr ⟨rfl, hFocus⟩
  | _ => contradiction

/-- **The two ways to evaluate**: no other gesture, on whatever screen, causes
that command. -/
theorem react_command_eq_evaluate_iff {s : Screen} {g : Gesture} :
    (s.react g).command = some .evaluate ↔ s.Evaluates g := by
  constructor
  · intro h
    exact (causes_of_react h).evaluates rfl
  · rintro (⟨rfl, hTab⟩ | ⟨rfl, hFocus⟩)
    · rw [react_key hTab s.app.keypad.equals_mem_keys]
      rfl
    · simp [react, hFocus]

end Screen

end DeskCalc
