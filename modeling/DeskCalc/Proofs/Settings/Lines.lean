import DeskCalc.Proofs.Settings.Key

/-!
# Lines

The reader cuts a document at every line end and reads each line by itself. The
grammar knows no lines but statements, and one of them can go over several lines
if it holds a value of another type. The two agree since such a statement is
refused by its first line already: there the value is seen to be no integer and no
boolean. All other statements hold no line end.

So what the reader says of the lines of a document depends on its statements
alone, however they are derived.

## Main results

* `line?_of_line`, `line?_eq_none` — the reader on the first line of a statement.
* `exists_line` — what the reader takes is a line of the grammar.
* `mapM_line?_of_lines`, `exists_lines` — both for all lines.
-/

namespace DeskCalc.Toml

/-- What a statement assigns as far as the reader goes along with it: nothing, or an
integer or a boolean to a key without dots. -/
def Statement.flat? : Statement → Option (List (Text × Scalar))
  | .blank => some []
  | .assigns key [] (.scalar value) => some [(key, value)]
  | _ => none

/-- The character ends no line. -/
def InLine (c : Char) : Prop := c ≠ '\n' ∧ c ≠ '\r'

instance : DecidablePred InLine := fun c => inferInstanceAs (Decidable (c ≠ '\n' ∧ c ≠ '\r'))

variable {other : Text → Prop} {s t rest key : Text}

/-! ## No line ends -/

theorem IsBlank.inLine {c : Char} (h : IsBlank c) : InLine c := by
  rcases h with rfl | rfl <;> decide

theorem IsPrintable.inLine {c : Char} (h : IsPrintable c) : InLine c := by
  constructor <;> rintro rfl <;> exact absurd h (by decide)

theorem inLine_of_isAlphanum {c : Char} (h : c.isAlphanum = true) : InLine c := by
  constructor <;> rintro rfl <;> exact absurd h (by decide)

theorem IsBare.inLine {c : Char} (h : IsBare c) : InLine c := by
  constructor <;> rintro rfl <;> exact absurd h (by decide)

theorem Escape.inLine {e : Text} {c : Char} (h : Escape e c) : ∀ d ∈ e, InLine d := by
  cases h with
  | short hShort =>
      have hAll : shortEscapes.all fun pair => decide (InLine pair.1) := by decide
      intro d hd
      rw [List.mem_singleton.1 hd]
      exact of_decide_eq_true (List.all_eq_true.1 hAll _ hShort)
  | code hLength hCode =>
      have hAll : codeLengths.all fun pair => decide (InLine pair.1) := by decide
      rintro d (_ | ⟨_, hd⟩)
      · exact of_decide_eq_true (List.all_eq_true.1 hAll _ hLength)
      · exact inLine_of_isAlphanum (hCode.isAlphanum (by decide) d hd)

theorem Quoted.inLine (h : Quoted s key) : ∀ c ∈ s, InLine c := by
  induction h with
  | nil => simp
  | plain hPrintable hQuote hEscape h ih => exact List.forall_mem_cons.2 ⟨hPrintable.inLine, ih⟩
  | escape hEscape h ih =>
      rw [List.forall_mem_cons, List.forall_mem_append]
      exact ⟨by decide, hEscape.inLine, ih⟩

theorem Key.inLine (h : Key s key) : ∀ c ∈ s, InLine c := by
  cases h with
  | bare hNonempty hAll => exact fun c hc => (hAll c hc).inLine
  | quoted hQuoted =>
      rw [List.forall_mem_cons, List.forall_mem_append, List.forall_mem_singleton]
      exact ⟨by decide, hQuoted.inLine, by decide⟩
  | literal hAll =>
      rw [List.forall_mem_cons, List.forall_mem_append, List.forall_mem_singleton]
      exact ⟨by decide, fun c hc => (hAll c hc).1.inLine, by decide⟩

theorem Comment.inLine (h : Comment s) : ∀ c ∈ s, InLine c := by
  cases h with
  | absent => simp
  | present hAll =>
      exact List.forall_mem_cons.2 ⟨by decide, fun c hc => (hAll c hc).inLine⟩

theorem IsScalar.inLine {value : Scalar} (h : IsScalar s value) : ∀ c ∈ s, InLine c := by
  intro c hc
  have hEnds := h.not_ends c hc
  exact ⟨fun hFeed => hEnds (.inr (.inr (.inl hFeed))),
    fun hReturn => hEnds (.inr (.inr (.inr hReturn)))⟩

/-- A statement that the reader goes along with stands on one line. -/
theorem Line.inLine {statement : Statement} (h : Line other s statement)
    {entries : List (Text × Scalar)} (hFlat : statement.flat? = some entries) :
    ∀ c ∈ s, InLine c := by
  obtain ⟨ha, hContent, hb, hComment⟩ := h
  simp only [List.forall_mem_append]
  refine ⟨fun c hc => (ha c hc).inLine, ?_, fun c hc => (hb c hc).inLine, hComment.inLine⟩
  cases hContent with
  | blank => simp
  | @assigns path a b s key inner value hPath ha hb hValue =>
      cases hPath with
      | dotted => cases hFlat
      | key hKey =>
          cases hValue with
          | other => cases hFlat
          | scalar hScalar =>
              simp only [List.forall_mem_append, List.forall_mem_cons]
              exact ⟨hKey.inLine, fun c hc => (ha c hc).inLine, by decide,
                fun c hc => (hb c hc).inLine, hScalar.inLine⟩
  | table => cases hFlat
  | tableArray => cases hFlat

/-! ## Blanks and comments -/

theorem isSpace_iff {c : Char} : Document.isSpace c = true ↔ IsBlank c := by
  simp [Document.isSpace, IsBlank]

theorem skipSpaces_append {a : Text} (h : Blanks a) (s : Text) :
    Document.skipSpaces (a ++ s) = Document.skipSpaces s :=
  List.dropWhile_append_of_pos fun c hc => isSpace_iff.2 (h c hc)

theorem skipSpaces_of_visible (h : ∀ c ∈ s.head?, ¬ IsBlank c) : Document.skipSpaces s = s := by
  cases s with
  | nil => rfl
  | cons c rest =>
      have hVisible : ¬ Document.isSpace c = true := fun hSpace => h c rfl (isSpace_iff.1 hSpace)
      exact List.dropWhile_cons_of_neg hVisible

theorem skipSpaces_blanks {a : Text} (h : Blanks a) {c : Char} (hc : ¬ IsBlank c) (s : Text) :
    Document.skipSpaces (a ++ c :: s) = c :: s := by
  rw [skipSpaces_append h]
  exact List.dropWhile_cons_of_neg fun hSpace => hc (isSpace_iff.1 hSpace)

theorem exists_blanks (s : Text) : ∃ a, Blanks a ∧ s = a ++ Document.skipSpaces s := by
  refine ⟨s.takeWhile Document.isSpace, ?_, List.takeWhile_append_dropWhile.symm⟩
  intro c hc
  exact isSpace_iff.1 (List.all_eq_true.1 List.all_takeWhile c hc)

theorem isRemark_iff : Document.isRemark s = true ↔ Comment s := by
  constructor
  · intro h
    unfold Document.isRemark at h
    split at h
    next => exact .absent
    next comment =>
      refine .present fun c hc => isForbidden_eq_false_iff.1 ?_
      simpa using List.all_eq_true.1 h c hc
    next => cases h
  · intro h
    cases h with
    | absent => rfl
    | present hAll =>
        refine List.all_eq_true.2 fun c hc => ?_
        rw [isForbidden_eq_false_iff.2 (hAll c hc)]
        rfl

theorem Comment.not_blank (h : Comment s) : ∀ c ∈ s.head?, ¬ IsBlank c := by
  cases h with
  | absent => simp
  | present hAll =>
      rintro c ⟨⟩
      decide

/-- A key begins with no blank and no comment. -/
theorem Key.exists_cons (h : Key s key) : ∃ c tail, s = c :: tail ∧ c ≠ '#' ∧ ¬ IsBlank c := by
  cases h with
  | bare hNonempty hAll =>
      obtain ⟨c, tail, rfl⟩ := List.exists_cons_of_ne_nil hNonempty
      refine ⟨c, tail, rfl, ?_, ?_⟩
      · rintro rfl
        exact absurd (hAll '#' List.mem_cons_self) (by decide)
      · rintro (rfl | rfl)
        · exact absurd (hAll ' ' List.mem_cons_self) (by decide)
        · exact absurd (hAll '\t' List.mem_cons_self) (by decide)
  | quoted hQuoted => exact ⟨_, _, rfl, by decide, by decide⟩
  | literal hAll => exact ⟨_, _, rfl, by decide, by decide⟩

/-! ## The reader on one line -/

/-- What the reader makes of a line from behind its key on. -/
def afterKey? (key rest : Text) : Option (Text × Scalar) :=
  match Document.skipSpaces rest with
  | '=' :: rest =>
      let valued := Document.skipSpaces rest
      (Document.scalar? (valued.takeWhile Document.isValueChar)).bind fun value =>
        if Document.isRemark (Document.skipSpaces (valued.dropWhile Document.isValueChar)) then
          some (key, value)
        else none
  | _ => none

theorem assignment?_eq (s : Text) :
    Document.assignment? s = (Document.key? s).bind fun r => afterKey? r.1 r.2 := by
  rfl

theorem isValueChar_eq_false_iff {c : Char} :
    Document.isValueChar c = false ↔ IsBlank c ∨ c = '#' := by
  rw [← isSpace_iff]
  cases hSpace : Document.isSpace c <;> simp [Document.isValueChar, hSpace]

theorem line?_eq (s : Text) :
    Document.line? s =
      if Document.isRemark (Document.skipSpaces s) = true then some []
      else (Document.assignment? (Document.skipSpaces s)).map fun entry => [entry] := by
  rfl

theorem line?_of_key {a : Text} (ha : Blanks a) (hKey : Key s key)
    (hEnd : ∀ c ∈ rest.head?, ¬ IsBare c) :
    Document.line? (a ++ (s ++ rest)) = (afterKey? key rest).map fun entry => [entry] := by
  obtain ⟨c, tail, rfl, hRemark, hBlank⟩ := hKey.exists_cons
  have hNoRemark : Document.isRemark (c :: tail ++ rest) = false := by
    unfold Document.isRemark
    split
    next hNil => cases hNil
    next hComment =>
      cases hComment
      exact absurd rfl hRemark
    next => rfl
  have hSkip : Document.skipSpaces (a ++ (c :: tail ++ rest)) = c :: tail ++ rest :=
    skipSpaces_blanks ha hBlank (tail ++ rest)
  rw [line?_eq, hSkip, hNoRemark, assignment?_eq, key?_append hKey hEnd]
  rfl

theorem afterKey?_equals {a b : Text} (ha : Blanks a) (hb : Blanks b)
    (hVisible : ∀ c ∈ s.head?, ¬ IsBlank c) (key : Text) :
    afterKey? key (a ++ '=' :: (b ++ s)) =
      (Document.scalar? (s.takeWhile Document.isValueChar)).bind fun value =>
        if Document.isRemark (Document.skipSpaces (s.dropWhile Document.isValueChar)) then
          some (key, value)
        else none := by
  unfold afterKey?
  rw [skipSpaces_blanks ha (by decide)]
  show (Document.scalar? ((Document.skipSpaces (b ++ s)).takeWhile _)).bind _ = _
  rw [skipSpaces_append hb, skipSpaces_of_visible hVisible]

/-- Behind a key there is no character that it could go on with. -/
theorem not_isBare_of_blanks {a : Text} (ha : Blanks a) {c : Char} (hc : ¬ IsBare c) (s : Text) :
    ∀ d ∈ (a ++ c :: s).head?, ¬ IsBare d := by
  intro d hd
  cases a with
  | nil =>
      cases hd
      exact hc
  | cons first tail =>
      cases hd
      rcases ha d List.mem_cons_self with rfl | rfl <;> decide

/-- What may follow a value. -/
theorem tail_cases {b comment : Text} (hb : Blanks b) (hComment : Comment comment) {c : Char}
    (hc : c ∈ (b ++ (comment ++ rest)).head?) : (IsBlank c ∨ c = '#') ∨ c ∈ rest.head? := by
  cases b with
  | cons first tail =>
      cases hc
      exact .inl (.inl (hb c List.mem_cons_self))
  | nil =>
      cases hComment with
      | absent => exact .inr hc
      | present hAll =>
          cases hc
          exact .inl (.inr rfl)

theorem ends_of_tail {b comment : Text} (hb : Blanks b) (hComment : Comment comment)
    (hRest : ∀ c ∈ rest.head?, Ends c) : ∀ c ∈ (b ++ (comment ++ rest)).head?, Ends c := by
  intro c hc
  rcases tail_cases hb hComment hc with hEnd | hLater
  · exact hEnd.imp_right .inl
  · exact hRest c hLater

theorem stops_of_tail {b comment : Text} (hb : Blanks b) (hComment : Comment comment) :
    ∀ c, (b ++ comment).head? = some c → Document.isValueChar c = false := by
  intro c hc
  rw [← List.append_nil comment] at hc
  rcases tail_cases hb hComment hc with hEnd | hNone
  · exact isValueChar_eq_false_iff.2 hEnd
  · cases hNone

/-- The characters of a value that the reader goes along with. -/
theorem IsScalar.isValueChar {value : Scalar} (h : IsScalar s value) :
    ∀ c ∈ s, Document.isValueChar c = true := by
  intro c hc
  apply Bool.eq_true_of_not_eq_false
  intro hEnd
  exact h.not_ends c hc ((isValueChar_eq_false_iff.1 hEnd).imp_right .inl)

theorem IsScalar.exists_cons {value : Scalar} (h : IsScalar s value) : ∃ c tail, s = c :: tail := by
  cases s with
  | nil =>
      have hRead := scalar?_eq_some_iff.2 h
      cases hRead
  | cons c tail => exact ⟨c, tail, rfl⟩

/-- **The reader on a statement that it goes along with.** -/
theorem line?_of_line {statement : Statement} (h : Line other s statement)
    {entries : List (Text × Scalar)} (hFlat : statement.flat? = some entries) :
    Document.line? s = some entries := by
  obtain @⟨a', s, b', comment, statement, ha, hContent, hb, hComment⟩ := h
  have hRemark := isRemark_iff.2 hComment
  cases hContent with
  | blank =>
      cases hFlat
      rw [line?_eq, skipSpaces_append ha, List.nil_append, skipSpaces_append hb,
        skipSpaces_of_visible hComment.not_blank, hRemark]
      rfl
  | @assigns path a b v key inner value hPath ha' hb' hValue =>
      cases hPath with
      | dotted => cases hFlat
      | key hKey =>
          cases hValue with
          | other => cases hFlat
          | @scalar value hScalar =>
              cases hFlat
              obtain ⟨c, tail, rfl⟩ := hScalar.exists_cons
              have hVisible : ∀ d ∈ (c :: tail ++ (b' ++ comment)).head?, ¬ IsBlank d := by
                rintro d ⟨⟩
                exact fun hBlank => hScalar.not_ends c List.mem_cons_self (.inl hBlank)
              obtain ⟨hTake, hDrop⟩ :=
                Text.takeWhile_dropWhile_run hScalar.isValueChar (stops_of_tail hb hComment)
              have hShape : a' ++ (path ++ (a ++ '=' :: (b ++ c :: tail)) ++ (b' ++ comment)) =
                  a' ++ (path ++ (a ++ '=' :: (b ++ (c :: tail ++ (b' ++ comment))))) := by
                simp
              have hEquals : ¬ IsBare '=' := by decide
              rw [hShape, line?_of_key ha hKey (not_isBare_of_blanks ha' hEquals _),
                afterKey?_equals ha' hb' hVisible, hTake, hDrop, scalar?_eq_some_iff.2 hScalar,
                skipSpaces_append hb, skipSpaces_of_visible hComment.not_blank, Option.bind_some,
                if_pos hRemark]
              rfl
  | table => cases hFlat
  | tableArray => cases hFlat

/-! ## Statements that the reader refuses -/

theorem exists_first {before first : Text} {more : List Text} (h : ∀ c ∈ before, InLine c)
    (hSplit : Text.splitLines (before ++ s) = first :: more) :
    ∃ y, first = before ++ y ∧ Text.splitLines s = y :: more := by
  obtain ⟨y, others, hRest⟩ := List.exists_cons_of_ne_nil (Text.splitLines_ne_nil s)
  rw [Text.splitLines_append h hRest] at hSplit
  cases hSplit
  exact ⟨y, rfl, hRest⟩

/-- What the reader takes for a value ends in the text as a value ends. -/
theorem exists_run {first : Text} {more : List Text}
    (hSplit : Text.splitLines s = first :: more) :
    ∃ u, s = first.takeWhile Document.isValueChar ++ u ∧ ∀ c ∈ u.head?, Ends c := by
  have hLine : first = first.takeWhile Document.isValueChar ++
      first.dropWhile Document.isValueChar := List.takeWhile_append_dropWhile.symm
  have hStop : ∀ c ∈ (first.dropWhile Document.isValueChar).head?, Ends c := by
    intro c hc
    have hFalse := Text.dropWhile_stops Document.isValueChar first c hc
    exact (isValueChar_eq_false_iff.1 hFalse).imp_right .inl
  rcases Text.splitLines_cases hSplit with ⟨hAll, -⟩ | ⟨ending, rest, hEnding, hAll, -⟩
  · exact ⟨first.dropWhile Document.isValueChar, hAll.trans hLine, hStop⟩
  · refine ⟨first.dropWhile Document.isValueChar ++ (ending ++ rest), ?_, ?_⟩
    · rw [← List.append_assoc, ← hLine, hAll]
    · intro c hc
      cases hDrop : first.dropWhile Document.isValueChar with
      | cons d tail =>
          rw [hDrop] at hc hStop
          exact hStop c hc
      | nil =>
          rw [hDrop] at hc
          cases hEnding <;> cases hc
          · exact .inr (.inr (.inl rfl))
          · exact .inr (.inr (.inr rfl))

/-- **A value of another type shows at once that it is no integer and no boolean**,
whatever follows it. -/
theorem Apart.not_isScalar (hOther : Apart other) {v u : Text} (hv : other v)
    (hTail : ∀ c ∈ t.head?, Ends c) (hRun : v ++ t = s ++ u) (hEnd : ∀ c ∈ u.head?, Ends c)
    (value : Scalar) : ¬ IsScalar s value := by
  intro hScalar
  rcases List.append_eq_append_iff.1 hRun with ⟨x, rfl, rfl⟩ | ⟨x, rfl, rfl⟩
  · cases x with
    | nil =>
        rw [List.append_nil] at hScalar
        obtain ⟨c, more, hCons, -⟩ := hOther.distinct v value [] hScalar (by simpa using hv)
        cases hCons
    | cons c more =>
        have hInside := hScalar.not_ends c (by simp)
        exact hInside (hTail c rfl)
  · obtain ⟨c, more, rfl, hInside⟩ := hOther.distinct s value x hScalar hv
    exact hInside (hEnd c rfl)

/-- The first line of such a value begins with no blank. -/
theorem Apart.visible_first (hOther : Apart other) {v first : Text} {more : List Text}
    (hv : other v) (hSplit : Text.splitLines (v ++ t) = first :: more) :
    ∀ c ∈ first.head?, ¬ IsBlank c := by
  obtain ⟨c, tail, rfl, hVisible⟩ := hOther.visible v hv
  rintro d hd
  cases first with
  | nil => cases hd
  | cons d first =>
      cases hd
      have hSame : c = d := by
        rcases Text.splitLines_cases hSplit with ⟨hAll, -⟩ | ⟨ending, rest, -, hAll, -⟩
        · exact (List.cons.inj hAll).1
        · exact (List.cons.inj hAll).1
      rw [← hSame]
      exact fun hBlank => hVisible (.inl hBlank)

theorem line?_header {a : Text} (ha : Blanks a) (s : Text) :
    Document.line? (a ++ ['['] ++ s) = none := by
  have hKey : Document.key? ('[' :: s) = none := rfl
  rw [List.append_assoc, List.singleton_append, line?_eq, skipSpaces_blanks ha (by decide),
    assignment?_eq, hKey]
  rfl

theorem line?_dot {a b : Text} (ha : Blanks a) (hKey : Key s key) (hb : Blanks b) (t : Text) :
    Document.line? (a ++ (s ++ (b ++ ['.'])) ++ t) = none := by
  have hShape : a ++ (s ++ (b ++ ['.'])) ++ t = a ++ (s ++ (b ++ '.' :: t)) := by simp
  have hDot : ¬ IsBare '.' := by decide
  rw [hShape, line?_of_key ha hKey (not_isBare_of_blanks hb hDot t), afterKey?,
    skipSpaces_blanks hb (by decide)]
  rfl

/-- **The reader refuses every other statement by its first line.** -/
theorem line?_eq_none (hOther : Apart other) {statement : Statement}
    (h : Line other s statement) (hFlat : statement.flat? = none)
    (hRest : ∀ c ∈ rest.head?, Ends c) {first : Text} {more : List Text}
    (hSplit : Text.splitLines (s ++ rest) = first :: more) : Document.line? first = none := by
  obtain @⟨a', s, b', comment, statement, ha, hContent, hb, hComment⟩ := h
  have hBefore : ∀ c ∈ a', InLine c := fun c hc => (ha c hc).inLine
  have hHeader {u : Text} (hSplit : Text.splitLines (a' ++ ['['] ++ u) = first :: more) :
      Document.line? first = none := by
    have hLine : ∀ c ∈ a' ++ ['['], InLine c := by
      rw [List.forall_mem_append, List.forall_mem_singleton]
      exact ⟨hBefore, by decide⟩
    obtain ⟨y, rfl, -⟩ := exists_first hLine hSplit
    exact line?_header ha y
  cases hContent with
  | blank => cases hFlat
  | @assigns path a b v key inner value hPath ha' hb' hValue =>
      cases hPath with
      | @dotted w a₂ b₂ path _ next inner hKey ha₂ hb₂ hPath =>
          have hShape : a' ++ (w ++ (a₂ ++ '.' :: (b₂ ++ path)) ++ (a ++ '=' :: (b ++ v)) ++
              (b' ++ comment)) ++ rest =
              a' ++ (w ++ (a₂ ++ ['.'])) ++
                (b₂ ++ (path ++ (a ++ '=' :: (b ++ (v ++ (b' ++ (comment ++ rest))))))) := by
            simp
          have hLine : ∀ c ∈ a' ++ (w ++ (a₂ ++ ['.'])), InLine c := by
            simp only [List.forall_mem_append, List.forall_mem_singleton]
            exact ⟨hBefore, hKey.inLine, fun c hc => (ha₂ c hc).inLine, by decide⟩
          rw [hShape] at hSplit
          obtain ⟨y, rfl, -⟩ := exists_first hLine hSplit
          exact line?_dot ha hKey ha₂ y
      | key hKey =>
          cases hValue with
          | scalar => cases hFlat
          | other hv =>
              have hShape : a' ++ (path ++ (a ++ '=' :: (b ++ v)) ++ (b' ++ comment)) ++ rest =
                  a' ++ (path ++ (a ++ '=' :: b)) ++ (v ++ (b' ++ (comment ++ rest))) := by
                simp
              have hLine : ∀ c ∈ a' ++ (path ++ (a ++ '=' :: b)), InLine c := by
                simp only [List.forall_mem_append, List.forall_mem_cons]
                exact ⟨hBefore, hKey.inLine, fun c hc => (ha' c hc).inLine, ⟨by decide, by decide⟩,
                  fun c hc => (hb' c hc).inLine⟩
              have hEquals : ¬ IsBare '=' := by decide
              rw [hShape] at hSplit
              obtain ⟨y, rfl, hValueSplit⟩ := exists_first hLine hSplit
              have hShape' : a' ++ (path ++ (a ++ '=' :: b)) ++ y =
                  a' ++ (path ++ (a ++ '=' :: (b ++ y))) := by
                simp
              obtain ⟨u, hRun, hEnd⟩ := exists_run hValueSplit
              have hTail := ends_of_tail hb hComment hRest
              have hNone : Document.scalar? (y.takeWhile Document.isValueChar) = none := by
                rw [Option.eq_none_iff_forall_ne_some]
                intro value hRead
                exact hOther.not_isScalar hv hTail hRun hEnd value (scalar?_eq_some_iff.1 hRead)
              rw [hShape', line?_of_key ha hKey (not_isBare_of_blanks ha' hEquals _),
                afterKey?_equals ha' hb' (hOther.visible_first hv hValueSplit), hNone]
              rfl
  | table ha' hPath hb' => exact hHeader (by simpa using hSplit)
  | tableArray ha' hPath hb' => exact hHeader (by simpa using hSplit)

/-! ## What the reader takes -/

/-- **What the reader takes is a line of the grammar.** -/
theorem exists_line (other : Text → Prop) {entries : List (Text × Scalar)}
    (h : Document.line? s = some entries) :
    ∃ statement, Line other s statement ∧ statement.flat? = some entries := by
  obtain ⟨a, ha, hs⟩ := exists_blanks s
  rw [line?_eq] at h
  generalize Document.skipSpaces s = content at h hs
  subst hs
  split at h
  next hRemark =>
    cases h
    exact ⟨.blank, .mk ha .blank (b := []) (by simp [Blanks]) (isRemark_iff.1 hRemark), rfl⟩
  next hStatement =>
    obtain ⟨⟨key, value⟩, hAssignment, rfl⟩ := Option.map_eq_some_iff.1 h
    rw [assignment?_eq] at hAssignment
    obtain ⟨⟨key', rest⟩, hRead, hAfter⟩ := Option.bind_eq_some_iff.1 hAssignment
    obtain ⟨w, hKey, rfl⟩ := key?_sound hRead
    obtain ⟨a', ha', hRest⟩ := exists_blanks rest
    unfold afterKey? at hAfter
    generalize Document.skipSpaces rest = content at hAfter hRest
    subst hRest
    split at hAfter
    next tail =>
      obtain ⟨b, hb, hTail⟩ := exists_blanks tail
      dsimp only at hAfter
      generalize Document.skipSpaces tail = valued at hAfter hTail
      subst hTail
      obtain ⟨v, hScalar, hEnd⟩ := Option.bind_eq_some_iff.1 hAfter
      obtain ⟨hRemark, hEntry⟩ := Option.ite_none_right_eq_some.1 hEnd
      cases hEntry
      have hSplit : valued = valued.takeWhile Document.isValueChar ++
          valued.dropWhile Document.isValueChar := List.takeWhile_append_dropWhile.symm
      obtain ⟨b', hb', hComment⟩ := exists_blanks (valued.dropWhile Document.isValueChar)
      have hShape : a ++ (w ++ (a' ++ '=' :: (b ++ valued))) =
          a ++ (w ++ (a' ++ '=' :: (b ++ valued.takeWhile Document.isValueChar)) ++
            (b' ++ Document.skipSpaces (valued.dropWhile Document.isValueChar))) := by
        rw [← hComment]
        conv_lhs => rw [hSplit]
        simp
      have hContent : Content other
          (w ++ (a' ++ '=' :: (b ++ valued.takeWhile Document.isValueChar))) _ :=
        .assigns (.key hKey) ha' hb (.scalar (scalar?_eq_some_iff.1 hScalar))
      rw [hShape]
      exact ⟨_, .mk ha hContent hb' (isRemark_iff.1 hRemark), rfl⟩
    next => cases hAfter

/-! ## All lines -/

section Lines

variable {statements : List Statement}

theorem splitLines_of_inLine (h : ∀ c ∈ s, InLine c) : Text.splitLines s = [s] := by
  have hNothing : Text.splitLines [] = [[]] := rfl
  have hLines := Text.splitLines_append h hNothing
  rw [List.append_nil] at hLines
  exact hLines

/-- **What the reader says of the lines depends on the statements alone.** -/
theorem mapM_line?_of_lines (hOther : Apart other) (h : Lines other s statements) :
    (Text.splitLines s).mapM Document.line? = statements.mapM Statement.flat? := by
  induction h with
  | @last s statement hLine =>
      cases hFlat : statement.flat? with
      | some entries =>
          rw [splitLines_of_inLine (hLine.inLine hFlat), List.mapM_cons, List.mapM_cons,
            line?_of_line hLine hFlat, hFlat]
          rfl
      | none =>
          obtain ⟨first, more, hSplit⟩ := List.exists_cons_of_ne_nil (Text.splitLines_ne_nil s)
          have hNothing : ∀ c ∈ ([] : Text).head?, Ends c := by simp
          have hWhole : Text.splitLines (s ++ []) = first :: more := by rw [List.append_nil, hSplit]
          have hRefused := line?_eq_none hOther hLine hFlat hNothing hWhole
          rw [hSplit, List.mapM_cons, List.mapM_cons, hRefused, hFlat]
          rfl
  | @next s ending rest statement statements hLine hEnding h ih =>
      cases hFlat : statement.flat? with
      | some entries =>
          have hSplit : Text.splitLines (ending ++ rest) = [] :: Text.splitLines rest :=
            Text.splitLines_lineEnd hEnding rest
          rw [Text.splitLines_append (hLine.inLine hFlat) hSplit, List.append_nil, List.mapM_cons,
            List.mapM_cons, line?_of_line hLine hFlat, hFlat, ih]
      | none =>
          obtain ⟨first, more, hSplit⟩ :=
            List.exists_cons_of_ne_nil (Text.splitLines_ne_nil (s ++ (ending ++ rest)))
          have hEnds : ∀ c ∈ (ending ++ rest).head?, Ends c := by
            intro c hc
            cases hEnding <;> cases hc
            · exact .inr (.inr (.inl rfl))
            · exact .inr (.inr (.inr rfl))
          have hRefused := line?_eq_none hOther hLine hFlat hEnds hSplit
          rw [hSplit, List.mapM_cons, List.mapM_cons, hRefused, hFlat]
          rfl

/-- **What the reader takes are lines of the grammar.** -/
theorem exists_lines (other : Text → Prop) {entries : List (List (Text × Scalar))}
    (h : (Text.splitLines s).mapM Document.line? = some entries) :
    ∃ statements, Lines other s statements ∧ statements.mapM Statement.flat? = some entries := by
  obtain ⟨lines, hLines⟩ : ∃ lines, Text.splitLines s = lines := ⟨_, rfl⟩
  induction lines generalizing s entries with
  | nil => exact absurd hLines (Text.splitLines_ne_nil s)
  | cons first more ih =>
      rw [hLines, List.mapM_cons] at h
      obtain ⟨given, hFirst, hMore⟩ := Option.bind_eq_some_iff.1 h
      obtain ⟨later, hLater, hAll⟩ := Option.bind_eq_some_iff.1 hMore
      cases hAll
      obtain ⟨statement, hLine, hFlat⟩ := exists_line other hFirst
      rcases Text.splitLines_cases hLines with ⟨rfl, rfl⟩ | ⟨ending, rest, hEnding, rfl, rfl⟩
      · cases hLater
        refine ⟨[statement], .last hLine, ?_⟩
        rw [List.mapM_cons, hFlat]
        rfl
      · obtain ⟨statements, hRest, hFlats⟩ := ih hLater rfl
        refine ⟨statement :: statements, .next hLine hEnding hRest, ?_⟩
        rw [List.mapM_cons, hFlat, hFlats]
        rfl

end Lines

end DeskCalc.Toml
