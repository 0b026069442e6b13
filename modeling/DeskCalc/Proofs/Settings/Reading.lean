import Mathlib.Data.List.Nodup
import DeskCalc.Proofs.Settings.Lines
import DeskCalc.Settings

/-!
# All of a settings file or nothing of it

A settings file counts if it is a TOML document that gives the outermost table
nothing but settings, each at most once and with a value that it may have. Then it
says every setting that it gives, and the others keep their defaults. In every
other case the program starts from the defaults, whatever the file says elsewhere.

The reader carries out one assignment after the other, so what it comes to holds
the settings of the part that it has read. Only at the end this is the result.

## Main results

* `Settings.holds_of_foldlM` — what the reader comes to says what was assigned.
* `Settings.read?_eq_some_iff` — the documents that are read.
* `settings_all_or_nothing` — files of every kind.
-/

namespace DeskCalc

namespace Toml

variable {other : Text → Prop} {s : Text} {statements : List Statement}
  {lines : List (List (Text × Scalar))}

theorem document_iff :
    Document other s statements ↔
      Lines other (DeskCalc.Document.skipByteOrderMark s) statements := by
  constructor
  · intro h
    cases h with
    | plain hMark hLines =>
        unfold DeskCalc.Document.skipByteOrderMark
        split
        next => exact absurd rfl hMark
        next => exact hLines
    | marked hLines => exact hLines
  · intro h
    unfold DeskCalc.Document.skipByteOrderMark at h
    split at h
    next => exact .marked h
    next hMark =>
      refine .plain ?_ h
      intro hHead
      cases s with
      | nil => cases hHead
      | cons c rest =>
          cases hHead
          exact hMark rest rfl

/-- **What the reader makes of a document** depends on its statements alone. -/
theorem read?_of_document (hOther : Apart other) (h : Document other s statements) :
    DeskCalc.Document.read? s = (statements.mapM Statement.flat?).bind fun lines =>
      if (lines.flatten.map Prod.fst).Nodup then some lines.flatten else none := by
  rw [← mapM_line?_of_lines hOther (document_iff.1 h)]
  rfl

/-- What the reader takes is a document. -/
theorem exists_document (other : Text → Prop) {entries : List (Text × Scalar)}
    (h : DeskCalc.Document.read? s = some entries) :
    ∃ statements, Document other s statements := by
  obtain ⟨lines, hLines, -⟩ := Option.bind_eq_some_iff.1 h
  obtain ⟨statements, hStatements, -⟩ := exists_lines other hLines
  exact ⟨statements, document_iff.2 hStatements⟩

/-- An assignment as the grammar has it. -/
def given (entry : Text × Scalar) : Text × Value := (entry.1, .scalar entry.2)

theorem map_fst_given (entries : List (Text × Scalar)) :
    (entries.map given).map Prod.fst = entries.map Prod.fst := by
  rw [List.map_map]
  rfl

/-- What the reader goes along with is all that is said of the outermost table. -/
theorem topLevel_of_flat (h : statements.mapM Statement.flat? = some lines) :
    topLevel statements = lines.flatten.map given := by
  induction statements generalizing lines with
  | nil =>
      cases h
      rfl
  | cons statement rest ih =>
      rw [List.mapM_cons] at h
      obtain ⟨first, hFirst, hRest⟩ := Option.bind_eq_some_iff.1 h
      obtain ⟨later, hLater, hAll⟩ := Option.bind_eq_some_iff.1 hRest
      cases hAll
      cases statement with
      | blank =>
          cases hFirst
          rw [topLevel, ih hLater]
          rfl
      | assigns key inner value =>
          cases inner with
          | cons next inner => cases hFirst
          | nil =>
              cases value with
              | other => cases hFirst
              | scalar value =>
                  cases hFirst
                  rw [topLevel, ih hLater]
                  rfl
      | opens key inner => cases hFirst

/-- Without a table and without a value of another type the reader goes along with
everything. -/
theorem exists_flat (h : ∀ entry ∈ topLevel statements, entry.2 ≠ .other) :
    ∃ lines, statements.mapM Statement.flat? = some lines := by
  induction statements with
  | nil => exact ⟨[], rfl⟩
  | cons statement rest ih =>
      have hKeep {entry : Text × Value} (hCons : topLevel (statement :: rest) =
          entry :: topLevel rest) : ∀ e ∈ topLevel rest, e.2 ≠ .other := by
        intro e he
        apply h
        rw [hCons]
        exact List.mem_cons_of_mem entry he
      cases statement with
      | blank =>
          obtain ⟨lines, hLines⟩ := ih h
          refine ⟨[] :: lines, ?_⟩
          rw [List.mapM_cons, hLines]
          rfl
      | opens key inner => exact absurd rfl (h (key, .other) List.mem_cons_self)
      | assigns key inner value =>
          cases inner with
          | cons next inner => exact absurd rfl (h (key, .other) List.mem_cons_self)
          | nil =>
              cases value with
              | other => exact absurd rfl (h (key, .other) List.mem_cons_self)
              | scalar value =>
                  obtain ⟨lines, hLines⟩ := ih (hKeep rfl)
                  refine ⟨[(key, value)] :: lines, ?_⟩
                  rw [List.mapM_cons, hLines]
                  rfl

end Toml

namespace Settings

open Toml (Value given map_fst_given)

/-- The key with its value is a setting. -/
inductive Known : Text × Value → Prop where
  | places {n : Nat} (h : n < 2 ^ 64) : Known (placesKey, .scalar (.integer n))
  | dark (b : Bool) : Known (darkKey, .scalar (.boolean b))
  | scientific (b : Bool) : Known (scientificKey, .scalar (.boolean b))

/-- All that are given are settings, each at most once. -/
structure Admitted (entries : List (Text × Value)) : Prop where
  known : ∀ entry ∈ entries, Known entry
  once : (entries.map Prod.fst).Nodup

/-- A field is what is given for its key; if nothing is, it keeps its default. -/
def FieldHolds {α β : Type} (entries : List (Text × Value)) (key : Text) (write : α → Scalar)
    (read : α → β) (default field : β) : Prop :=
  (∃ value, (key, .scalar (write value)) ∈ entries ∧ field = read value) ∨
    (key ∉ entries.map Prod.fst ∧ field = default)

/-- The settings say what is given. The number of places is cut to what can be
shown. -/
structure Holds (entries : List (Text × Value)) (s : Settings) : Prop where
  places : FieldHolds entries placesKey (fun n : Nat => .integer n) (min · Display.maxPlaces)
    default.places s.places
  dark : FieldHolds entries darkKey .boolean some default.dark? s.dark?
  scientific : FieldHolds entries scientificKey .boolean id default.scientific s.scientific

/-! ## One field -/

section FieldHolds

variable {α β : Type} {entries : List (Text × Value)} {key : Text} {write : α → Scalar}
  {read : α → β} {d field field' : β}

/-- An assignment to another key leaves a field as it is. -/
theorem FieldHolds.append (h : FieldHolds entries key write read d field) {entry : Text × Value}
    (hKey : key ≠ entry.1) : FieldHolds (entries ++ [entry]) key write read d field := by
  rcases h with ⟨value, hMem, hField⟩ | ⟨hAbsent, hField⟩
  · exact .inl ⟨value, List.mem_append_left _ hMem, hField⟩
  · refine .inr ⟨?_, hField⟩
    rw [List.map_append, List.mem_append, List.map_singleton, List.mem_singleton]
    rintro (hMem | hSame)
    · exact hAbsent hMem
    · exact hKey hSame

theorem FieldHolds.assigned (write : α → Scalar) (value : α) :
    FieldHolds (entries ++ [(key, .scalar (write value))]) key write read d (read value) :=
  .inl ⟨value, by simp, rfl⟩

/-- With each key given at most once a field can be but one thing. -/
theorem FieldHolds.unique (hOnce : (entries.map Prod.fst).Nodup) (hWrite : Function.Injective write)
    (h : FieldHolds entries key write read d field)
    (h' : FieldHolds entries key write read d field') : field = field' := by
  rcases h with ⟨value, hMem, hField⟩ | ⟨hAbsent, hField⟩
  · rcases h' with ⟨value', hMem', hField'⟩ | ⟨hAbsent, -⟩
    · have hSame := List.inj_on_of_nodup_map hOnce hMem hMem' rfl
      simp only [Prod.mk.injEq, Value.scalar.injEq, true_and] at hSame
      rw [hField, hField', hWrite hSame]
    · exact absurd (List.mem_map_of_mem hMem) hAbsent
  · rcases h' with ⟨value', hMem', -⟩ | ⟨-, hField'⟩
    · exact absurd (List.mem_map_of_mem hMem') hAbsent
    · rw [hField, hField']

end FieldHolds

theorem Holds.unique {entries : List (Text × Value)} (hOnce : (entries.map Prod.fst).Nodup)
    {s s' : Settings} (h : Holds entries s) (h' : Holds entries s') : s = s' := by
  have hInteger : Function.Injective fun n : Nat => Scalar.integer n := by
    intro m n hSame
    simpa using hSame
  have hBoolean : Function.Injective Scalar.boolean := by
    intro a b hSame
    simpa using hSame
  have hPlaces := h.places.unique hOnce hInteger h'.places
  have hDark := h.dark.unique hOnce hBoolean h'.dark
  have hScientific := h.scientific.unique hOnce hBoolean h'.scientific
  cases s
  cases s'
  simp_all

theorem Holds.places_le {entries : List (Text × Value)} {s : Settings} (h : Holds entries s) :
    s.places ≤ Display.maxPlaces := by
  rcases h.places with ⟨n, -, hPlaces⟩ | ⟨-, hPlaces⟩
  · rw [hPlaces]
    exact Nat.min_le_right n _
  · rw [hPlaces]
    decide

/-! ## The reader -/

theorem holds_default : Holds [] default where
  places := .inr ⟨by simp, rfl⟩
  dark := .inr ⟨by simp, rfl⟩
  scientific := .inr ⟨by simp, rfl⟩

theorem places_ne_dark : placesKey ≠ darkKey := by decide

theorem places_ne_scientific : placesKey ≠ scientificKey := by decide

theorem dark_ne_scientific : darkKey ≠ scientificKey := by decide

/-- What an assignment does that is carried out. -/
theorem assign_cases {s s' : Settings} {entry : Text × Scalar} (h : assign s entry = some s') :
    (∃ n : Nat, n < 2 ^ 64 ∧ entry = (placesKey, .integer n) ∧
      s' = { s with places := min n Display.maxPlaces }) ∨
    (∃ b, entry = (darkKey, .boolean b) ∧ s' = { s with dark? := some b }) ∨
    (∃ b, entry = (scientificKey, .boolean b) ∧ s' = { s with scientific := b }) := by
  obtain ⟨key, value⟩ := entry
  cases value with
  | integer n =>
      obtain ⟨⟨rfl, hLow, hHigh⟩, hSome⟩ := Option.ite_none_right_eq_some.1 h
      cases hSome
      refine .inl ⟨n.toNat, by omega, ?_, rfl⟩
      rw [Int.toNat_of_nonneg hLow]
  | boolean b =>
      unfold assign at h
      dsimp only at h
      split at h
      next hDark =>
        cases h
        exact .inr (.inl ⟨b, by rw [hDark], rfl⟩)
      next =>
        obtain ⟨rfl, hSome⟩ := Option.ite_none_right_eq_some.1 h
        cases hSome
        exact .inr (.inr ⟨b, rfl, rfl⟩)

/-- Every setting can be carried out. -/
theorem exists_assign {entry : Text × Scalar} (h : Known (given entry)) (s : Settings) :
    ∃ s', assign s entry = some s' := by
  obtain ⟨key, value⟩ := entry
  generalize hGiven : given (key, value) = target at h
  cases h with
  | @places n hBound =>
      obtain ⟨rfl, rfl⟩ : key = placesKey ∧ value = .integer n := by simpa [given] using hGiven
      have hLow : (0 : Int) ≤ n := Int.natCast_nonneg n
      have hHigh : (n : Int) < 2 ^ 64 := by omega
      refine ⟨{ s with places := min n Display.maxPlaces }, ?_⟩
      unfold assign
      exact if_pos ⟨rfl, hLow, hHigh⟩
  | dark b =>
      obtain ⟨rfl, rfl⟩ : key = darkKey ∧ value = .boolean b := by simpa [given] using hGiven
      refine ⟨{ s with dark? := some b }, ?_⟩
      unfold assign
      exact if_pos rfl
  | scientific b =>
      obtain ⟨rfl, rfl⟩ : key = scientificKey ∧ value = .boolean b := by
        simpa [given] using hGiven
      refine ⟨{ s with scientific := b }, ?_⟩
      unfold assign
      dsimp only
      rw [if_neg dark_ne_scientific.symm, if_pos rfl]

theorem known_of_assign {s s' : Settings} {entry : Text × Scalar}
    (h : assign s entry = some s') : Known (given entry) := by
  rcases assign_cases h with ⟨n, hBound, rfl, -⟩ | ⟨b, rfl, -⟩ | ⟨b, rfl, -⟩
  · exact .places hBound
  · exact .dark b
  · exact .scientific b

/-- **One more assignment** makes the settings say it and what they said before. -/
theorem Holds.assign {entries : List (Text × Value)} {s s' : Settings} {entry : Text × Scalar}
    (hs : Holds entries s) (h : assign s entry = some s') :
    Holds (entries ++ [given entry]) s' := by
  rcases assign_cases h with ⟨n, -, rfl, rfl⟩ | ⟨b, rfl, rfl⟩ | ⟨b, rfl, rfl⟩
  · exact ⟨.assigned (fun n : Nat => .integer n) n, hs.dark.append places_ne_dark.symm,
      hs.scientific.append places_ne_scientific.symm⟩
  · exact ⟨hs.places.append places_ne_dark, .assigned .boolean b,
      hs.scientific.append dark_ne_scientific.symm⟩
  · exact ⟨hs.places.append places_ne_scientific, hs.dark.append dark_ne_scientific,
      .assigned .boolean b⟩

section Fold

variable {rest : List (Text × Scalar)} {s s' : Settings}

/-- **What the reader comes to says what was assigned**, the part in front included. -/
theorem holds_of_foldlM {before : List (Text × Value)} (hs : Holds before s)
    (h : rest.foldlM assign s = some s') : Holds (before ++ rest.map given) s' := by
  induction rest generalizing before s with
  | nil =>
      cases h
      rw [List.map_nil, List.append_nil]
      exact hs
  | cons entry rest ih =>
      rw [List.foldlM_cons] at h
      obtain ⟨next, hNext, hRest⟩ := Option.bind_eq_some_iff.1 h
      have hAll := ih (hs.assign hNext) hRest
      rw [List.append_assoc] at hAll
      exact hAll

theorem known_of_foldlM (h : rest.foldlM assign s = some s') :
    ∀ entry ∈ rest.map given, Known entry := by
  induction rest generalizing s with
  | nil => simp
  | cons entry rest ih =>
      rw [List.foldlM_cons] at h
      obtain ⟨next, hNext, hRest⟩ := Option.bind_eq_some_iff.1 h
      exact List.forall_mem_cons.2 ⟨known_of_assign hNext, ih hRest⟩

theorem exists_foldlM (h : ∀ entry ∈ rest.map given, Known entry) (s : Settings) :
    ∃ s', rest.foldlM assign s = some s' := by
  induction rest generalizing s with
  | nil => exact ⟨s, rfl⟩
  | cons entry rest ih =>
      obtain ⟨hEntry, hRest⟩ := List.forall_mem_cons.1 h
      obtain ⟨next, hNext⟩ := exists_assign hEntry s
      obtain ⟨s', hFold⟩ := ih hRest next
      refine ⟨s', ?_⟩
      rw [List.foldlM_cons, hNext]
      exact hFold

end Fold

theorem Known.ne_other {entry : Text × Value} (h : Known entry) : entry.2 ≠ .other := by
  cases h <;> simp

/-- **The documents that are read**: those that give settings alone, each at most
once. They are read as what they give. -/
theorem read?_eq_some_iff {other : Text → Prop} (hOther : Toml.Apart other) {s : Text}
    {statements : List Toml.Statement} (hDocument : Toml.Document other s statements)
    {c : Settings} :
    read? s = some c ↔
      Admitted (Toml.topLevel statements) ∧ Holds (Toml.topLevel statements) c := by
  unfold read?
  rw [Toml.read?_of_document hOther hDocument]
  constructor
  · intro h
    obtain ⟨entries, hRead, hFold⟩ := Option.bind_eq_some_iff.1 h
    obtain ⟨lines, hLines, hOnce⟩ := Option.bind_eq_some_iff.1 hRead
    obtain ⟨hNodup, hEntries⟩ := Option.ite_none_right_eq_some.1 hOnce
    cases hEntries
    rw [Toml.topLevel_of_flat hLines]
    refine ⟨⟨known_of_foldlM hFold, ?_⟩, holds_of_foldlM holds_default hFold⟩
    rw [map_fst_given]
    exact hNodup
  · rintro ⟨hAdmitted, hHolds⟩
    obtain ⟨lines, hLines⟩ := Toml.exists_flat fun entry hEntry =>
      (hAdmitted.known entry hEntry).ne_other
    rw [Toml.topLevel_of_flat hLines] at hAdmitted hHolds
    obtain ⟨c', hFold⟩ := exists_foldlM hAdmitted.known default
    have hSame := (holds_of_foldlM holds_default hFold).unique hAdmitted.once hHolds
    have hNodup := hAdmitted.once
    rw [map_fst_given] at hNodup
    rw [hLines, Option.bind_some, if_pos hNodup, ← hSame]
    exact hFold

/-- The text is a document that gives settings alone, and these settings say what
it gives. -/
def Accepts (other : Text → Prop) (s : Text) (c : Settings) : Prop :=
  ∃ statements, Toml.Document other s statements ∧ Admitted (Toml.topLevel statements) ∧
    Holds (Toml.topLevel statements) c

theorem accepts_iff {other : Text → Prop} (hOther : Toml.Apart other) {s : Text} {c : Settings} :
    Accepts other s c ↔ read? s = some c := by
  constructor
  · rintro ⟨statements, hDocument, hGiven⟩
    exact (read?_eq_some_iff hOther hDocument).2 hGiven
  · intro h
    obtain ⟨entries, hRead, -⟩ := Option.bind_eq_some_iff.1 h
    obtain ⟨statements, hDocument⟩ := Toml.exists_document other hRead
    exact ⟨statements, hDocument, (read?_eq_some_iff hOther hDocument).1 h⟩

/-- The bytes are the text's. -/
theorem fromUTF8?_eq_some_iff {bytes : ByteArray} {text : String} :
    String.fromUTF8? bytes = some text ↔ bytes = text.toUTF8 := by
  constructor
  · intro h
    obtain ⟨hValid, hText⟩ := Option.dite_none_right_eq_some.1 h
    cases hText
    rfl
  · rintro rfl
    exact dif_pos text.isValidUTF8

theorem load_of_read? {text : String} {c : Settings} (h : read? text.toList = some c) :
    load (.contents text.toUTF8) = c := by
  have hBytes : ofBytes? text.toUTF8 = some c := by
    rw [ofBytes?, fromUTF8?_eq_some_iff.2 rfl]
    exact h
  rw [load, hBytes]
  rfl

/-- The defaults are what is loaded, or the settings of a text that is read. -/
theorem load_cases (file : SettingsFile) :
    load file = default ∨
      ∃ text : String, file = .contents text.toUTF8 ∧ read? text.toList = some (load file) := by
  cases file with
  | noDirectory => exact .inl rfl
  | missing => exact .inl rfl
  | contents bytes =>
      cases hBytes : ofBytes? bytes with
      | none =>
          left
          rw [load, hBytes]
          rfl
      | some c =>
          obtain ⟨text, hText, hRead⟩ := Option.bind_eq_some_iff.1 hBytes
          cases fromUTF8?_eq_some_iff.1 hText
          right
          refine ⟨text, rfl, ?_⟩
          rw [load_of_read? hRead]
          exact hRead

end Settings

/-- **All of a settings file or nothing of it.** Let the values of other types be
texts that do not begin like an integer or a boolean. Whatever there is of a file,
the number of places is one that can be shown. If the file holds the bytes of a
text that is accepted, the program starts from the settings of that text, and in
every other case from the defaults. Accepted is exactly a TOML document that gives
the outermost table settings alone, each at most once; the settings say what is
given, and a document that gives anything else is refused as a whole. -/
theorem settings_all_or_nothing (other : Text → Prop) (hOther : Toml.Apart other)
    (file : SettingsFile) :
    (Settings.load file).places ≤ Display.maxPlaces ∧
    (∀ (text : String) c, file = .contents text.toUTF8 → Settings.Accepts other text.toList c →
      Settings.load file = c) ∧
    ((∀ (text : String) c, file = .contents text.toUTF8 →
      ¬ Settings.Accepts other text.toList c) → Settings.load file = .default) ∧
    (∀ s c, Settings.read? s = some c ↔ Settings.Accepts other s c) ∧
    (∀ s statements, Toml.Document other s statements →
      ¬ Settings.Admitted (Toml.topLevel statements) → Settings.read? s = none) := by
  refine ⟨?_, ?_, ?_, fun s c => (Settings.accepts_iff hOther).symm, ?_⟩
  · rcases Settings.load_cases file with hDefault | ⟨text, -, hRead⟩
    · rw [hDefault]
      decide
    · obtain ⟨statements, -, -, hHolds⟩ := (Settings.accepts_iff hOther).2 hRead
      exact hHolds.places_le
  · rintro text c rfl hAccepts
    exact Settings.load_of_read? ((Settings.accepts_iff hOther).1 hAccepts)
  · intro hRefused
    rcases Settings.load_cases file with hDefault | ⟨text, hFile, hRead⟩
    · exact hDefault
    · exact absurd ((Settings.accepts_iff hOther).2 hRead) (hRefused text _ hFile)
  · intro s statements hDocument hNot
    rw [Option.eq_none_iff_forall_ne_some]
    intro c hRead
    exact hNot ((Settings.read?_eq_some_iff hOther hDocument).1 hRead).1

/-- A file with every liberty of the layout is read, and one is refused for the text
that it gives as a value, whatever it gives before. -/
theorem settings_all_or_nothing_late_fault :
    let strings : Text → Prop := fun s => ∃ body key, Toml.Quoted body key ∧
      s = '"' :: (body ++ ['"'])
    let sound := "\uFEFF# au choix\r\n\t\"decimales\" = 0x1_0 # seize\n\nmode_sombre=true"
    let faulty := "decimales = 4\nmode_sombre = \"oui\"\n"
    Toml.Apart strings ∧ Settings.load (.contents sound.toUTF8) = ⟨15, some true, false⟩ ∧
      Settings.load (.contents faulty.toUTF8) = .default := by
  intro strings sound faulty
  have hStrings : Toml.Apart strings := by
    constructor
    · rintro s ⟨body, key, -, rfl⟩
      exact ⟨'"', _, rfl, by decide⟩
    · rintro s value rest hScalar ⟨body, key, -, hString⟩
      obtain ⟨c, tail, rfl⟩ := hScalar.exists_cons
      obtain ⟨rfl, -⟩ := List.cons.inj hString
      exact absurd (hScalar.chars '"' List.mem_cons_self) (by decide)
  have hRead : Settings.read? sound.toList = some ⟨15, some true, false⟩ := by decide +kernel
  have hRefused : Settings.read? faulty.toList = none := by decide +kernel
  refine ⟨hStrings, ?_, ?_⟩
  · obtain ⟨-, hLoad, -, hAccepts, -⟩ :=
      settings_all_or_nothing strings hStrings (.contents sound.toUTF8)
    exact hLoad sound _ rfl ((hAccepts _ _).1 hRead)
  · obtain ⟨-, -, hDefault, hAccepts, -⟩ :=
      settings_all_or_nothing strings hStrings (.contents faulty.toUTF8)
    apply hDefault
    intro text c hFile hText
    have hBytes : faulty.toUTF8 = text.toUTF8 := by simpa using hFile
    have hSame := Settings.fromUTF8?_eq_some_iff.2 hBytes
    rw [Settings.fromUTF8?_eq_some_iff.2 rfl] at hSame
    cases hSame
    rw [← hAccepts, hRefused] at hText
    cases hText

end DeskCalc
