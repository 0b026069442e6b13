import DeskCalc.Proofs.Expr.DisplayForm
import DeskCalc.Proofs.Session.Places
import DeskCalc.Proofs.Settings.Reading

/-!
# The layout of a settings file

Who writes a settings file decides more than the settings: the order of the lines,
the blanks around keys and values, comments, empty lines and how the lines end. A
`Layout` is a file with all these decisions made, as `Layout.text` writes it down,
and `Layout.given` is what remains of it once they are forgotten, a list of
settings.

The reader forgets the same. What it makes of a layout is decided by the settings
that are given, and not by their order either, since each field asks only whether
its own setting is among them.

## Main results

* `Settings.Layout.document`, `Settings.Layout.topLevel_statements` — a layout is a
  document that gives its settings.
* `Settings.Layout.read?_text_congr` — layouts of the same settings are read alike.
* `Settings.Layout.read?_text` — the settings that were laid out are read back.
* `layouts_read_alike` — the whole way from the file to what a run shows.
-/

namespace DeskCalc

namespace Toml

variable {other : Text → Prop} {s t key : Text}

/-! ## The mark of the byte order -/

theorem head_append_ne {c : Char} (hs : c ∉ s) (ht : t.head? ≠ some c) :
    (s ++ t).head? ≠ some c := by
  cases s with
  | nil => exact ht
  | cons d rest =>
      intro hHead
      cases hHead
      exact hs List.mem_cons_self

theorem Blanks.mark_notMem (h : Blanks s) : '\uFEFF' ∉ s := fun hMem =>
  absurd (h _ hMem) (by decide)

theorem Key.head_ne_mark (h : Key s key) (t : Text) : (s ++ t).head? ≠ some '\uFEFF' := by
  cases h with
  | bare hNonempty hBare =>
      obtain ⟨c, rest, rfl⟩ := List.exists_cons_of_ne_nil hNonempty
      intro hHead
      cases hHead
      exact absurd (hBare _ List.mem_cons_self) (by decide)
  | quoted => simp
  | literal => simp

theorem Path.head_ne_mark {inner : List Text} (h : Path s key inner) (t : Text) :
    (s ++ t).head? ≠ some '\uFEFF' := by
  cases h with
  | key hKey => exact hKey.head_ne_mark t
  | dotted hKey =>
      rw [List.append_assoc]
      exact hKey.head_ne_mark _

theorem Line.head_ne_mark {statement : Statement} (h : Line other s statement)
    (ht : t.head? ≠ some '\uFEFF') : (s ++ t).head? ≠ some '\uFEFF' := by
  obtain ⟨ha, hContent, hb, hComment⟩ := h
  rw [List.append_assoc]
  apply head_append_ne ha.mark_notMem
  cases hContent with
  | blank =>
      rw [List.nil_append, List.append_assoc]
      apply head_append_ne hb.mark_notMem
      cases hComment with
      | absent => exact ht
      | present => simp
  | assigns hPath =>
      rw [List.append_assoc, List.append_assoc]
      exact hPath.head_ne_mark _
  | table => simp
  | tableArray => simp

/-- The mark of the byte order begins no line, so in front of a document it is none
of its text. -/
theorem Lines.head_ne_mark {statements : List Statement} (h : Lines other s statements) :
    s.head? ≠ some '\uFEFF' := by
  cases h with
  | last hLine =>
      have hHead := hLine.head_ne_mark (t := []) (by simp)
      rwa [List.append_nil] at hHead
  | next hLine hEnding =>
      apply hLine.head_ne_mark
      cases hEnding <;> simp

theorem Lines.document {statements : List Statement} (h : Lines other s statements) :
    Document other s statements :=
  .plain h.head_ne_mark h

/-! ## Written numbers -/

/-- The digits of a number name it. -/
theorem number_write (n : Nat) : Number 10 (Digits.write n) n := by
  have hDigit {d : Nat} (h : d < 10) : IsDigit 10 (Digits.char d) d := by
    have hAll : ∀ e : Fin 10, Digits.char e.val = e.val.digitChar := by decide
    exact ⟨h, .inl (hAll ⟨d, h⟩)⟩
  fun_induction Digits.write n with
  | case1 n h => exact ⟨[n], .cons (hDigit h) .nil, by simp⟩
  | case2 n h ih =>
      obtain ⟨digits, hAll, hValue⟩ := ih
      have hLast := hDigit (Nat.mod_lt n (by decide))
      refine ⟨digits ++ [n % 10], List.rel_append hAll (.cons hLast .nil), ?_⟩
      rw [List.reverse_append]
      show n = Nat.ofDigits 10 (n % 10 :: digits.reverse)
      rw [Nat.ofDigits_cons, ← hValue]
      exact (Nat.mod_add_div n 10).symm

theorem unsigned_write (n : Nat) : Unsigned (Digits.write n) n := by
  have hNumber := number_write n
  have hWhole := Display.isWhole_write n
  generalize Digits.write n = s at hNumber hWhole
  have hNonempty : ∀ group ∈ [s], group ≠ [] := by
    rintro group hGroup rfl
    rw [← List.mem_singleton.1 hGroup] at hWhole
    cases hWhole
  refine ⟨⟨[s], List.cons_ne_nil s [], hNonempty, List.intercalate_singleton.symm, ?_⟩, ?_⟩
  · rw [List.flatten_singleton]
    exact hNumber
  · intro hHead
    cases hWhole with
    | zero => rfl
    | digits hFirst hNonzero => exact absurd (Option.some.inj hHead) hNonzero

end Toml

namespace Settings

open Toml (Value Statement)

/-! ## What is laid out -/

/-- One setting of a file. -/
inductive Setting where
  | places (n : Nat)
  | dark (b : Bool)
  | scientific (b : Bool)
deriving DecidableEq, Repr

namespace Setting

def key : Setting → Text
  | places _ => placesKey
  | dark _ => darkKey
  | scientific _ => scientificKey

def value : Setting → Scalar
  | places n => .integer n
  | dark b => .boolean b
  | scientific b => .boolean b

/-- What the setting says of the outermost table. -/
def given (s : Setting) : Text × Value := (s.key, .scalar s.value)

/-- The plain writing of the value. -/
def valueText : Setting → Text
  | places n => Digits.write n
  | dark b => boolText b
  | scientific b => boolText b
where
  boolText (b : Bool) : Text := if b then "true".toList else "false".toList

/-- The settings of a file that gives the places and maybe more. -/
def choices (n : Nat) (dark? scientific? : Option Bool) : List Setting :=
  places n :: ((dark?.map dark).toList ++ (scientific?.map scientific).toList)

/-- The key itself is its plain writing. -/
theorem key_key (s : Setting) : Toml.Key s.key s.key := by
  have hBare {t : Text} (hNonempty : t ≠ []) (h : t.all (fun c => Toml.IsBare c) = true) :
      Toml.Key t t :=
    .bare hNonempty fun c hc => by simpa using List.all_eq_true.1 h c hc
  cases s with
  | places n => exact hBare (t := placesKey) (by decide) (by decide)
  | dark b => exact hBare (t := darkKey) (by decide) (by decide)
  | scientific b => exact hBare (t := scientificKey) (by decide) (by decide)

theorem isScalar_valueText (s : Setting) : Toml.IsScalar s.valueText s.value := by
  have hBool (b : Bool) : Toml.IsScalar (valueText.boolText b) (.boolean b) := by
    cases b with
    | true => exact .yes
    | false => exact .no
  cases s with
  | places n => exact .integer (.unsigned (Toml.unsigned_write n))
  | dark b => exact hBool b
  | scientific b => exact hBool b

theorem map_fst_map_given (settings : List Setting) :
    (settings.map given).map Prod.fst = settings.map key := by
  rw [List.map_map]
  rfl

end Setting

/-- Blanks inside a line. -/
abbrev Gap : Type := { s : Text // Toml.Blanks s }

/-- A comment, which may be missing. -/
abbrev Remark : Type := { s : Text // Toml.Comment s }

def Gap.none : Gap := ⟨[], by simp [Toml.Blanks]⟩

def Gap.space : Gap := ⟨[' '], by simp [Toml.Blanks, Toml.IsBlank]⟩

def Remark.none : Remark := ⟨[], .absent⟩

/-- A line of a settings file, with all that its writer may choose. -/
inductive Row where
  /-- Nothing but blanks and a comment. -/
  | idle (before : Gap) (remark : Remark)
  /-- A setting, with a writing of its key and one of its value. -/
  | gives (setting : Setting) (key : { s : Text // Toml.Key s setting.key })
      (value : { s : Text // Toml.IsScalar s setting.value })
      (before behind ahead after : Gap) (remark : Remark)

namespace Row

/-- The line as it stands in the file. -/
def text : Row → Text
  | idle before remark => before.1 ++ remark.1
  | gives _ key value before behind ahead after remark =>
      before.1 ++ ((key.1 ++ (behind.1 ++ '=' :: (ahead.1 ++ value.1))) ++
        (after.1 ++ remark.1))

/-- The setting that the line gives, if it gives one. -/
def given : Row → List Setting
  | idle _ _ => []
  | gives setting _ _ _ _ _ _ _ => [setting]

/-- What the line says. -/
def statement : Row → Statement
  | idle _ _ => .blank
  | gives setting _ _ _ _ _ _ _ => .assigns setting.key [] (.scalar setting.value)

theorem line (other : Text → Prop) (row : Row) : Toml.Line other row.text row.statement := by
  cases row with
  | idle before remark => exact .mk before.2 .blank Gap.none.2 remark.2
  | gives setting key value before behind ahead after remark =>
      exact .mk before.2 (.assigns (.key key.2) behind.2 ahead.2 (.scalar value.2)) after.2 remark.2

/-- The plain line of a setting. -/
def plain (setting : Setting) : Row :=
  gives setting ⟨_, setting.key_key⟩ ⟨_, setting.isScalar_valueText⟩ .none .space .space .none
    .none

end Row

/-- A settings file, line by line. The last line has no end, so it is empty in a file
that ends with a line end. -/
inductive Layout where
  | last (row : Row)
  | next (row : Row) (ending : { s : Text // Text.LineEnd s }) (rest : Layout)

namespace Layout

/-- The file's text. -/
def text : Layout → Text
  | last row => row.text
  | next row ending rest => row.text ++ (ending.1 ++ rest.text)

/-- The settings that the file gives, in its order. -/
def given : Layout → List Setting
  | last row => row.given
  | next row _ rest => row.given ++ rest.given

/-- The plain file of some settings. -/
def plain : List Setting → Layout
  | [] => last (.idle .none .none)
  | setting :: rest => next (.plain setting) ⟨['\n'], .feed⟩ (plain rest)

@[simp] theorem given_plain (settings : List Setting) : (plain settings).given = settings := by
  induction settings with
  | nil => rfl
  | cons setting rest ih => exact congrArg (setting :: ·) ih

/-- What the lines of the file say. -/
def statements : Layout → List Statement
  | last row => [row.statement]
  | next row _ rest => row.statement :: rest.statements

theorem lines (other : Text → Prop) (layout : Layout) :
    Toml.Lines other layout.text layout.statements := by
  induction layout with
  | last row => exact .last (row.line other)
  | next row ending rest ih => exact .next (row.line other) ending.2 ih

/-- **A layout is a document that gives its settings.** -/
theorem topLevel_statements (layout : Layout) :
    Toml.topLevel layout.statements = layout.given.map Setting.given := by
  induction layout with
  | last row => cases row <;> rfl
  | next row ending rest ih =>
      cases row with
      | idle before remark => exact ih
      | gives setting => exact congrArg (setting.given :: ·) ih

theorem document (other : Text → Prop) (layout : Layout) :
    Toml.Document other layout.text layout.statements :=
  (layout.lines other).document

end Layout

/-! ## What is read of it -/

section Perm

variable {entries entries' : List (Text × Value)}

theorem Admitted.perm (h : Admitted entries) (hPerm : entries.Perm entries') :
    Admitted entries' where
  known entry hEntry := h.known entry (hPerm.mem_iff.2 hEntry)
  once := (hPerm.map Prod.fst).nodup_iff.1 h.once

theorem FieldHolds.perm {α β : Type} {key : Text} {write : α → Scalar} {read : α → β}
    {d field : β} (h : FieldHolds entries key write read d field)
    (hPerm : entries.Perm entries') : FieldHolds entries' key write read d field := by
  rcases h with ⟨value, hMem, hField⟩ | ⟨hAbsent, hField⟩
  · exact .inl ⟨value, hPerm.mem_iff.1 hMem, hField⟩
  · refine .inr ⟨?_, hField⟩
    rwa [← (hPerm.map Prod.fst).mem_iff]

theorem Holds.perm {c : Settings} (h : Holds entries c) (hPerm : entries.Perm entries') :
    Holds entries' c where
  places := h.places.perm hPerm
  dark := h.dark.perm hPerm
  scientific := h.scientific.perm hPerm

end Perm

/-- No text is the value of another type. -/
theorem apart_false : Toml.Apart fun _ => False where
  visible _ h := h.elim
  distinct _ _ _ _ h := h.elim

/-- **What is read of two layouts of the same settings is the same**, a refusal
included. -/
theorem Layout.read?_text_congr {layout layout' : Layout} (h : layout.given.Perm layout'.given) :
    read? layout.text = read? layout'.text := by
  have hPerm : (Toml.topLevel layout.statements).Perm (Toml.topLevel layout'.statements) := by
    rw [layout.topLevel_statements, layout'.topLevel_statements]
    exact h.map _
  ext c
  rw [read?_eq_some_iff apart_false (layout.document _),
    read?_eq_some_iff apart_false (layout'.document _)]
  constructor
  · rintro ⟨hAdmitted, hHolds⟩
    exact ⟨hAdmitted.perm hPerm, hHolds.perm hPerm⟩
  · rintro ⟨hAdmitted, hHolds⟩
    exact ⟨hAdmitted.perm hPerm.symm, hHolds.perm hPerm.symm⟩

/-- What the settings of a file come to. The keypad that is not chosen is the basic
one. -/
def chosen (n : Nat) (dark? scientific? : Option Bool) : Settings :=
  ⟨min n Display.maxPlaces, dark?, scientific?.getD false⟩

section Choices

variable {n : Nat} {dark? scientific? : Option Bool}

theorem admitted_choices (hn : n < 2 ^ 64) :
    Admitted ((Setting.choices n dark? scientific?).map Setting.given) where
  known := by
    rw [List.forall_mem_map, Setting.choices, List.forall_mem_cons]
    refine ⟨.places hn, List.forall_mem_append.2 ⟨?_, ?_⟩⟩
    · intro setting hSetting
      obtain ⟨b, -, rfl⟩ := Option.map_eq_some_iff.1 (Option.mem_toList.1 hSetting)
      exact .dark b
    · intro setting hSetting
      obtain ⟨b, -, rfl⟩ := Option.map_eq_some_iff.1 (Option.mem_toList.1 hSetting)
      exact .scientific b
  once := by
    rw [Setting.map_fst_map_given]
    cases dark? <;> cases scientific? <;>
      simp [Setting.choices, Setting.key, places_ne_dark, places_ne_scientific, dark_ne_scientific]

theorem holds_choices :
    Holds ((Setting.choices n dark? scientific?).map Setting.given)
      (chosen n dark? scientific?) where
  places := .inl ⟨n, List.mem_cons_self, rfl⟩
  dark := by
    cases dark? with
    | none =>
        refine .inr ⟨?_, rfl⟩
        rw [Setting.map_fst_map_given]
        cases scientific? <;>
          simp [Setting.choices, Setting.key, places_ne_dark.symm, dark_ne_scientific]
    | some b =>
        have hMem : Setting.dark b ∈ Setting.choices n (some b) scientific? := by
          simp [Setting.choices]
        exact .inl ⟨b, List.mem_map_of_mem hMem, rfl⟩
  scientific := by
    cases scientific? with
    | none =>
        refine .inr ⟨?_, rfl⟩
        rw [Setting.map_fst_map_given]
        cases dark? <;>
          simp [Setting.choices, Setting.key, places_ne_scientific.symm, dark_ne_scientific.symm]
    | some b =>
        have hMem : Setting.scientific b ∈ Setting.choices n dark? (some b) := by
          simp [Setting.choices]
        exact .inl ⟨b, List.mem_map_of_mem hMem, rfl⟩

/-- **The settings that were laid out are read back.** -/
theorem Layout.read?_text {layout : Layout} (hn : n < 2 ^ 64)
    (h : layout.given.Perm (Setting.choices n dark? scientific?)) :
    read? layout.text = some (chosen n dark? scientific?) := by
  have hPerm : ((Setting.choices n dark? scientific?).map Setting.given).Perm
      (Toml.topLevel layout.statements) := by
    rw [layout.topLevel_statements]
    exact (h.map _).symm
  rw [read?_eq_some_iff apart_false (layout.document _)]
  exact ⟨(admitted_choices hn).perm hPerm, holds_choices.perm hPerm⟩

end Choices

/-- What is loaded from a file is what is read of its text. -/
theorem load_text {s : Text} {c : Settings} (h : read? s = some c) :
    load (.contents (String.ofList s).toUTF8) = c := by
  apply load_of_read?
  rwa [String.toList_ofList]

end Settings

/-- **A layout is read as the settings that it lays out.** Take any number of places
below `2 ^ 64` and any choice of theme and keypad, each of which may be left out.
They can be laid out; and every layout of them, with its lines in any order, is read
as the settings themselves, the number of places cut to what can be shown. So two
layouts of the same settings are read alike, even where they are refused. Whatever
is done in the program that starts from them, all results are shown with that many
places; and since the display cuts the number in the same way, they look as with the
number that the file gives. -/
theorem layouts_read_alike {n : Nat} (hn : n < 2 ^ 64) (dark? scientific? : Option Bool)
    (systemDark : Bool) :
    let choices := Settings.Setting.choices n dark? scientific?
    let chosen := Settings.chosen n dark? scientific?
    (Settings.Layout.plain choices).given = choices ∧
    (∀ layout : Settings.Layout, layout.given.Perm choices →
      Settings.read? layout.text = some chosen ∧
        Settings.load (.contents (String.ofList layout.text).toUTF8) = chosen) ∧
    (∀ layout layout' : Settings.Layout, layout.given.Perm layout'.given →
      Settings.read? layout.text = Settings.read? layout'.text) ∧
    (∀ commands : List Command,
      ((App.start chosen systemDark).run commands).calculator.Formats
        (min n Display.maxPlaces)) ∧
    (∀ gestures : List Gesture,
      ((Screen.start chosen systemDark).run gestures).app.calculator.Formats
        (min n Display.maxPlaces)) ∧
    ∀ x, Display.write x (min n Display.maxPlaces) = Display.write x n := by
  intro choices chosen
  refine ⟨Settings.Layout.given_plain choices, ?_, ?_, ?_, ?_, ?_⟩
  · intro layout hLayout
    have hRead : Settings.read? layout.text = some chosen := Settings.Layout.read?_text hn hLayout
    exact ⟨hRead, Settings.load_text hRead⟩
  · intro layout layout' hSame
    exact Settings.Layout.read?_text_congr hSame
  · intro commands
    rw [App.calculator_run]
    exact Calculator.formats_run_start _ commands
  · intro gestures
    rw [Screen.calculator_run]
    exact Calculator.formats_run_start _ _
  · intro x
    unfold Display.write
    rw [Nat.min_assoc, Nat.min_self]

/-- The largest number of places, given behind the keypad, among comments and with
lines of both ends. -/
theorem layouts_read_alike_largest :
    let remark : Settings.Remark := ⟨"# au choix".toList, Toml.isRemark_iff.1 (by decide)⟩
    let keypad : Settings.Setting := .scientific true
    let places : Settings.Setting := .places 18446744073709551615
    let given : Settings.Row := .gives keypad ⟨_, keypad.key_key⟩ ⟨_, keypad.isScalar_valueText⟩
      .space .none .space .space remark
    let layout : Settings.Layout :=
      .next (.idle .space remark) ⟨['\n'], .feed⟩
        (.next given ⟨['\r', '\n'], .returnFeed⟩ (.last (.plain places)))
    layout.text = (" # au choix\n mode_scientifique= true # au choix\r\n" ++
        "decimales = 18446744073709551615").toList ∧
      18446744073709551615 < 2 ^ 64 ∧
      Settings.read? layout.text = some ⟨15, none, true⟩ := by
  intro remark keypad places given layout
  have hSmall : 18446744073709551615 < 2 ^ 64 := by decide
  obtain ⟨-, hRead, -⟩ := layouts_read_alike hSmall none (some true) false
  exact ⟨by decide +kernel, hSmall, (hRead layout (.swap places keypad [])).1⟩

end DeskCalc
