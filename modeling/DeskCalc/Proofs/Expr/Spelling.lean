import Mathlib
import DeskCalc.Proofs.Expr.FirstLexeme

/-!
# Spellings of one expression

An expression can be typed with glyphs or in ASCII, and with letters of either
case. All spellings have the same tokens, and also the same error. Two facts are
behind it, each about the lexemes of any text whatever: changing the case of letters
changes the letters of words alone, and writing a glyph in ASCII changes that one
symbol alone. The words that stand for glyphs are set between spaces, so they fuse
with no neighbour; the star that stands for a product would fuse with another one,
so texts where the two meet are left out.

## Main results

* `Spelling.ofText_lower` — lexemes of a text in lower case.
* `Spelling.ofText_plain` — lexemes of a text in ASCII.
* `spellings_agree` — all spellings have the same tokens, value and display.
-/

namespace DeskCalc

namespace Spelling

/-- What a character is written as in ASCII. -/
def ascii : Char → Text
  | '×' => ['*']
  | '÷' => ['/']
  | '−' => ['-']
  | 'π' => [' ', 'p', 'i', ' ']
  | '√' => [' ', 's', 'q', 'r', 't', ' ']
  | c => [c]

/-- A text with its glyphs written in ASCII. -/
def plain (s : Text) : Text := s.flatMap ascii

/-- The texts differ in the case of ASCII letters only. -/
def SameLetters (s t : Text) : Prop := s.map Char.toLower = t.map Char.toLower

instance (s t : Text) : Decidable (SameLetters s t) :=
  inferInstanceAs (Decidable (s.map Char.toLower = t.map Char.toLower))

/-- In ASCII the two neighbours would be two stars, but not as they stand. -/
def MeetAsStars (c d : Char) : Prop := c = '×' ∧ (d = '×' ∨ d = '*') ∨ c = '*' ∧ d = '×'

instance (c d : Char) : Decidable (MeetAsStars c d) :=
  inferInstanceAs (Decidable (_ ∧ (_ ∨ _) ∨ _ ∧ _))

/-- No glyph of a product stands next to a star or to another such glyph. -/
def TimesApart (s : Text) : Prop := s.IsChain fun c d => ¬ MeetAsStars c d

instance (s : Text) : Decidable (TimesApart s) :=
  inferInstanceAs (Decidable (s.IsChain _))

variable {c : Char} {s t : Text}

/-! ## Letters -/

theorem toLower_of_not_isAlpha (h : c.isAlpha = false) : c.toLower = c := by
  apply Char.toLower_eq_of_not_isUpper
  intro hUpper
  have hEither : (c.isUpper || c.isLower) = false := h
  rw [hUpper] at hEither
  contradiction

theorem toLower_of_isNumeric (h : Numeral.isNumeric c = true) : c.toLower = c :=
  toLower_of_not_isAlpha (Numeral.not_isAlpha h)

/-- Letters of either case are letters and stand for themselves; all other
characters stay as they are. -/
theorem toLower_cases (c : Char) :
    (c.isAlpha = true ∧ c.toLower.isAlpha = true) ∨ c.isAlpha = false ∧ c.toLower = c := by
  cases h : c.isAlpha with
  | true => exact .inl ⟨rfl, (Char.isAlpha_toLower_eq_isAlpha c).trans h⟩
  | false => exact .inr ⟨rfl, toLower_of_not_isAlpha h⟩

theorem isBlank_toLower (c : Char) : Text.isBlank c.toLower = Text.isBlank c := by
  rcases toLower_cases c with ⟨hLetter, hLower⟩ | ⟨-, hSame⟩
  · rw [Lexeme.not_isBlank_of_isAlpha hLetter, Lexeme.not_isBlank_of_isAlpha hLower]
  · rw [hSame]

theorem isNumeric_toLower (c : Char) : Numeral.isNumeric c.toLower = Numeral.isNumeric c := by
  rcases toLower_cases c with ⟨hLetter, hLower⟩ | ⟨-, hSame⟩
  · have hNot {d : Char} (hd : d.isAlpha = true) : Numeral.isNumeric d = false := by
      cases hNumeric : Numeral.isNumeric d with
      | false => rfl
      | true =>
          rw [Numeral.not_isAlpha hNumeric] at hd
          contradiction
    rw [hNot hLetter, hNot hLower]
  · rw [hSame]

/-- A lexeme with its letters in lower case. -/
def lower : Lexeme → Lexeme
  | .word letters => .word (letters.map Char.toLower)
  | l => l

theorem token_lower (l : Lexeme) : (lower l).token = l.token := by
  cases l with
  | word letters =>
      have hTwice : (letters.map Char.toLower).map Char.toLower = letters.map Char.toLower := by
        rw [List.map_map]
        exact List.map_congr_left fun c _ => Char.toLower_toLower_eq_toLower c
      simp only [lower, Lexeme.token, hTwice]
  | _ => rfl

/-- A run of characters that the case does not change the kind of. -/
theorem takeWhile_dropWhile_lower {p : Char → Bool} (h : ∀ c, p c.toLower = p c) (s : Text) :
    (s.map Char.toLower).takeWhile p = (s.takeWhile p).map Char.toLower ∧
      (s.map Char.toLower).dropWhile p = (s.dropWhile p).map Char.toLower := by
  have hKind : p ∘ Char.toLower = p := funext h
  rw [List.takeWhile_map, List.dropWhile_map, hKind]
  exact ⟨rfl, rfl⟩

/-- **Lower case changes the letters of words alone.** -/
theorem ofText_lower (s : Text) :
    Lexeme.ofText (s.map Char.toLower) = (Lexeme.ofText s).map lower := by
  fun_induction Lexeme.ofText s with
  | case1 => rw [List.map_nil, Lexeme.ofText, List.map_nil]
  | case2 c rest hBlank ih =>
      rw [List.map_cons, Lexeme.ofText_blank ((isBlank_toLower c).trans hBlank), ih]
  | case3 c rest hBlank hAlpha ih =>
      obtain ⟨hTake, hDrop⟩ := takeWhile_dropWhile_lower Char.isAlpha_toLower_eq_isAlpha rest
      rw [List.map_cons, Lexeme.ofText, isBlank_toLower, if_neg hBlank,
        Char.isAlpha_toLower_eq_isAlpha, if_pos hAlpha, hTake, hDrop, ih]
      rfl
  | case4 c rest hBlank hAlpha hNumeric ih =>
      obtain ⟨hTake, hDrop⟩ := takeWhile_dropWhile_lower isNumeric_toLower rest
      -- digits and points have no case
      have hRun : (rest.takeWhile Numeral.isNumeric).map Char.toLower =
          rest.takeWhile Numeral.isNumeric := by
        apply List.map_congr_left _ |>.trans (List.map_id _)
        intro d hd
        exact toLower_of_isNumeric (List.all_eq_true.1 List.all_takeWhile d hd)
      rw [List.map_cons, Lexeme.ofText, isBlank_toLower, if_neg hBlank,
        Char.isAlpha_toLower_eq_isAlpha, if_neg hAlpha, isNumeric_toLower, if_pos hNumeric, hTake,
        hDrop, ih, hRun, toLower_of_isNumeric hNumeric]
      rfl
  | case5 c rest hBlank hAlpha hNumeric hStar ih =>
      obtain ⟨rfl, hSecond⟩ := hStar
      obtain ⟨tail, rfl⟩ := List.head?_eq_some_iff.1 hSecond
      exact (Lexeme.ofText_doubleStar _).trans (congrArg _ ih)
  | case6 c rest hBlank hAlpha hNumeric hStar ih =>
      have hLetter : c.isAlpha = false := by simpa using hAlpha
      have hSymbol : ¬ (c = '*' ∧ (rest.map Char.toLower).head? = some '*') := by
        rintro ⟨rfl, hSecond⟩
        rw [List.head?_map, Option.map_eq_some_iff] at hSecond
        obtain ⟨d, hd, hLower⟩ := hSecond
        rcases toLower_cases d with ⟨-, hLetter⟩ | ⟨-, hSame⟩
        · rw [hLower] at hLetter
          contradiction
        · exact hStar ⟨rfl, by rw [hd, ← hSame, hLower]⟩
      rw [List.map_cons, toLower_of_not_isAlpha hLetter,
        Lexeme.ofText_symbol (by simpa using hBlank) hLetter (by simpa using hNumeric) hSymbol, ih]
      rfl

theorem tokenize_eq_of_map_token {s t : Text}
    (h : (Lexeme.ofText t).map Lexeme.token = (Lexeme.ofText s).map Lexeme.token) :
    tokenize t = tokenize s := by
  have hTokens (s : Text) : tokenize s = ((Lexeme.ofText s).map Lexeme.token).mapM id := by
    rw [List.mapM_map]
    rfl
  rw [hTokens, hTokens, h]

/-- The case of letters does not change the tokens. -/
theorem SameLetters.tokenize_eq (h : SameLetters s t) : tokenize t = tokenize s := by
  have hLower (s : Text) : (Lexeme.ofText (s.map Char.toLower)).map Lexeme.token =
      (Lexeme.ofText s).map Lexeme.token := by
    rw [ofText_lower, List.map_map]
    exact List.map_congr_left fun l _ => token_lower l
  apply tokenize_eq_of_map_token
  rw [← hLower t, ← h, hLower s]

/-! ## Glyphs -/

/-- A lexeme with its glyph written in ASCII. -/
def asciiLexeme : Lexeme → Lexeme
  | .symbol '×' => .symbol '*'
  | .symbol '÷' => .symbol '/'
  | .symbol '−' => .symbol '-'
  | .symbol 'π' => .word ['p', 'i']
  | .symbol '√' => .word ['s', 'q', 'r', 't']
  | l => l

/-- The glyphs. -/
def glyphs : Text := ['×', '÷', '−', 'π', '√']

theorem token_asciiLexeme (l : Lexeme) : (asciiLexeme l).token = l.token := by
  unfold asciiLexeme
  split <;> rfl

theorem ascii_of_not_mem (h : c ∉ glyphs) : ascii c = [c] := by
  simp only [glyphs, List.mem_cons, List.not_mem_nil, or_false, not_or] at h
  unfold ascii
  split <;> simp_all

theorem asciiLexeme_of_not_mem (h : c ∉ glyphs) : asciiLexeme (.symbol c) = .symbol c := by
  simp only [glyphs, List.mem_cons, List.not_mem_nil, or_false, not_or] at h
  unfold asciiLexeme
  split <;> simp_all

theorem plain_cons (c : Char) (s : Text) : plain (c :: s) = ascii c ++ plain s :=
  List.flatMap_cons

theorem plain_append (s t : Text) : plain (s ++ t) = plain s ++ plain t :=
  List.flatMap_append

theorem plain_of_not_mem (h : ∀ c ∈ s, c ∉ glyphs) : plain s = s := by
  induction s with
  | nil => rfl
  | cons c s ih =>
      obtain ⟨hFirst, hRest⟩ := List.forall_mem_cons.1 h
      rw [plain_cons, ascii_of_not_mem hFirst, ih hRest]
      rfl

/-- What a text begins with in ASCII. -/
theorem head?_plain {d : Char} (h : (plain s).head? = some d) :
    s.head? = some d ∨ ∃ c ∈ glyphs, s.head? = some c ∧ (ascii c).head? = some d := by
  cases s with
  | nil => cases h
  | cons c rest =>
      rw [plain_cons] at h
      by_cases hGlyph : c ∈ glyphs
      · have hNonempty : ascii c ≠ [] := by
          have hAll : glyphs.all fun g => !(ascii g).isEmpty := by decide
          have hNot := List.all_eq_true.1 hAll c hGlyph
          simpa using hNot
        rw [List.head?_append_of_ne_nil _ hNonempty] at h
        exact .inr ⟨c, hGlyph, rfl, h⟩
      · rw [ascii_of_not_mem hGlyph] at h
        exact .inl h

/-- A run that ends in front of a text ends in front of its spelling in ASCII. -/
theorem stops_plain {p : Char → Bool} (hGlyphs : glyphs.all fun c => (ascii c).head?.all (!p ·))
    (h : ∀ c, s.head? = some c → p c = false) : ∀ d, (plain s).head? = some d → p d = false := by
  intro d hd
  rcases head?_plain hd with hSame | ⟨c, hGlyph, -, hAscii⟩
  · exact h d hSame
  · have hNot := List.all_eq_true.1 hGlyphs c hGlyph
    rw [hAscii] at hNot
    simpa using hNot

/-- A text begins with a star in ASCII if it begins with one anyway or with the glyph
of a product. -/
theorem star_of_plain (h : (plain s).head? = some '*') :
    s.head? = some '*' ∨ s.head? = some '×' := by
  rcases head?_plain h with hSame | ⟨c, hGlyph, hHead, hAscii⟩
  · exact .inl hSame
  · have hAll : glyphs.all fun c => (ascii c).head? != some '*' || c == '×' := by decide
    have hTimes := List.all_eq_true.1 hAll c hGlyph
    rw [hAscii] at hTimes
    obtain rfl : c = '×' := by simpa using hTimes
    exact .inr hHead

theorem not_glyph {p : Char → Bool} (hGlyphs : glyphs.all fun c => !p c) (h : p c = true) :
    c ∉ glyphs := by
  intro hMem
  have hNot := List.all_eq_true.1 hGlyphs c hMem
  rw [h] at hNot
  contradiction

/-- A run of characters that are no glyphs in front of a text stays as it is. -/
theorem plain_run {p : Char → Bool} (hGlyphs : glyphs.all fun c => !p c) (h : p c = true)
    (rest : Text) :
    plain (c :: rest) = (c :: rest.takeWhile p) ++ plain (rest.dropWhile p) := by
  have hRun : ∀ d ∈ c :: rest.takeWhile p, d ∉ glyphs := by
    intro d hd
    apply not_glyph hGlyphs
    rcases List.mem_cons.1 hd with rfl | hd
    · exact h
    · exact List.all_eq_true.1 List.all_takeWhile d hd
  conv_lhs => rw [← List.takeWhile_append_dropWhile (p := p) (l := rest)]
  rw [← List.cons_append, plain_append, plain_of_not_mem hRun]

/-- Behind a star, or what is a star in ASCII, no star follows that did not before. -/
theorem TimesApart.not_star (h : TimesApart (c :: s)) (hFirst : c = '*' ∨ c = '×')
    (hStar : ¬ (c = '*' ∧ s.head? = some '*')) : (plain s).head? ≠ some '*' := by
  intro hPlain
  have hNext {d : Char} (hd : s.head? = some d) : ¬ MeetAsStars c d := by
    obtain ⟨tail, rfl⟩ := List.head?_eq_some_iff.1 hd
    exact (List.isChain_cons_cons.1 h).1
  rcases star_of_plain hPlain with hHead | hHead
  · rcases hFirst with rfl | rfl
    · exact hStar ⟨rfl, hHead⟩
    · exact hNext hHead (by decide)
  · rcases hFirst with rfl | rfl
    · exact hNext hHead (by decide)
    · exact hNext hHead (by decide)

/-- A word between two spaces is a lexeme in front of any text. -/
theorem ofText_spaced {w : Text} (hNonempty : w ≠ []) (hWord : w.all Char.isAlpha = true)
    (rest : Text) :
    Lexeme.ofText (' ' :: (w ++ ' ' :: rest)) = .word w :: Lexeme.ofText rest := by
  have hStops : ∀ d, (' ' :: rest).head? = some d → d.isAlpha = false := by
    rintro d ⟨⟩
    rfl
  rw [Lexeme.ofText_blank rfl, Lexeme.ofText_word hNonempty (List.all_eq_true.1 hWord) hStops,
    Lexeme.ofText_blank rfl]

/-- **A glyph written in ASCII is the lexeme that it stands for.** -/
theorem ofText_ascii (h : TimesApart (c :: s)) (hGlyph : c ∈ glyphs) :
    Lexeme.ofText (ascii c ++ plain s) = asciiLexeme (.symbol c) :: Lexeme.ofText (plain s) := by
  have hSymbol (d : Char) (hKind : Text.isBlank d = false ∧ d.isAlpha = false ∧
      Numeral.isNumeric d = false) (hStar : d = '*' → (plain s).head? ≠ some '*') :
      Lexeme.ofText (d :: plain s) = .symbol d :: Lexeme.ofText (plain s) :=
    Lexeme.ofText_symbol hKind.1 hKind.2.1 hKind.2.2 fun hTwo => hStar hTwo.1 hTwo.2
  simp only [glyphs, List.mem_cons, List.not_mem_nil, or_false] at hGlyph
  rcases hGlyph with rfl | rfl | rfl | rfl | rfl
  · exact hSymbol '*' (by decide) fun _ => h.not_star (.inr rfl) (by simp)
  · exact hSymbol '/' (by decide) (by simp)
  · exact hSymbol '-' (by decide) (by simp)
  · exact ofText_spaced (w := ['p', 'i']) (List.cons_ne_nil _ _) rfl (plain s)
  · exact ofText_spaced (w := ['s', 'q', 'r', 't']) (List.cons_ne_nil _ _) rfl (plain s)

/-- **Writing glyphs in ASCII changes those symbols alone.** -/
theorem ofText_plain (h : TimesApart s) :
    Lexeme.ofText (plain s) = (Lexeme.ofText s).map asciiLexeme := by
  fun_induction Lexeme.ofText s with
  | case1 => rw [plain, List.flatMap_nil, Lexeme.ofText, List.map_nil]
  | case2 c rest hBlank ih =>
      have hOther : c ∉ glyphs := not_glyph (by decide) hBlank
      rw [plain_cons, ascii_of_not_mem hOther, List.singleton_append, Lexeme.ofText_blank hBlank,
        ih h.tail]
  | case3 c rest hBlank hAlpha ih =>
      have hLetters : ∀ d ∈ c :: rest.takeWhile Char.isAlpha, d.isAlpha = true :=
        List.forall_mem_cons.2 ⟨hAlpha, List.all_eq_true.1 List.all_takeWhile⟩
      have hGlyphs : glyphs.all fun c => (ascii c).head?.all (!Char.isAlpha ·) := by decide
      have hStops := stops_plain hGlyphs (Text.dropWhile_stops Char.isAlpha rest)
      rw [plain_run (by decide) hAlpha, Lexeme.ofText_word (by simp) hLetters hStops,
        ih (h.tail.suffix (List.dropWhile_suffix _))]
      rfl
  | case4 c rest hBlank hAlpha hNumeric ih =>
      have hRun : ∀ d ∈ c :: rest.takeWhile Numeral.isNumeric, Numeral.isNumeric d = true :=
        List.forall_mem_cons.2 ⟨hNumeric, List.all_eq_true.1 List.all_takeWhile⟩
      have hGlyphs : glyphs.all fun c => (ascii c).head?.all (!Numeral.isNumeric ·) := by decide
      have hStops := stops_plain hGlyphs (Text.dropWhile_stops Numeral.isNumeric rest)
      rw [plain_run (by decide) hNumeric, Lexeme.ofText_numeral (by simp) hRun hStops,
        ih (h.tail.suffix (List.dropWhile_suffix _))]
      rfl
  | case5 c rest hBlank hAlpha hNumeric hStar ih =>
      obtain ⟨rfl, hSecond⟩ := hStar
      obtain ⟨tail, rfl⟩ := List.head?_eq_some_iff.1 hSecond
      exact (Lexeme.ofText_doubleStar _).trans (congrArg _ (ih h.tail.tail))
  | case6 c rest hBlank hAlpha hNumeric hStar ih =>
      rw [plain_cons, List.map_cons, ← ih h.tail]
      by_cases hGlyph : c ∈ glyphs
      · exact ofText_ascii h hGlyph
      · rw [ascii_of_not_mem hGlyph, asciiLexeme_of_not_mem hGlyph]
        apply Lexeme.ofText_symbol (by simpa using hBlank) (by simpa using hAlpha)
          (by simpa using hNumeric)
        rintro ⟨rfl, hSecond⟩
        exact h.not_star (.inl rfl) hStar hSecond

/-- Writing glyphs in ASCII does not change the tokens. -/
theorem TimesApart.tokenize_plain (h : TimesApart s) : tokenize (plain s) = tokenize s := by
  apply tokenize_eq_of_map_token
  rw [ofText_plain h, List.map_map]
  exact List.map_congr_left fun l _ => token_asciiLexeme l

end Spelling

/-- The texts are read, valued and displayed alike, errors included. -/
structure SameExpression (s t : Text) : Prop where
  tokens : tokenize t = tokenize s
  value : evaluate t = evaluate s
  display : ∀ places, Display.evaluate t places = Display.evaluate s places

theorem SameExpression.of_tokenize {s t : Text} (h : tokenize t = tokenize s) :
    SameExpression s t :=
  ⟨h, evaluate_congr h, Display.evaluate_congr h⟩

/-- **All spellings of one expression are the same expression.** Let no glyph of a
product stand next to a star or to another such glyph. Then a text may be written in
ASCII, with its letters in any case, and nothing comes of it: its tokens or its
error, its value and its display are the same. So are those of any two such texts that
are alike in ASCII but for the case of letters. -/
theorem spellings_agree {s : Text} (hApart : Spelling.TimesApart s) :
    (∀ t, Spelling.SameLetters (Spelling.plain s) t → SameExpression s t) ∧
    ∀ t, Spelling.TimesApart t → Spelling.SameLetters (Spelling.plain s) (Spelling.plain t) →
      SameExpression s t := by
  have hPlain := hApart.tokenize_plain
  constructor
  · intro t hCase
    exact .of_tokenize (hCase.tokenize_eq.trans hPlain)
  · intro t hOther hCase
    apply SameExpression.of_tokenize
    rw [← hOther.tokenize_plain, hCase.tokenize_eq, hPlain]

/-- A product with a root behind its glyph, and a word that no spelling gives a
meaning. -/
theorem spellings_agree_root :
    let s : Text := "3×√(π)−2÷E".toList
    let t : Text := "3* SqRt ( PI )-2/e".toList
    let faulty : Text := "π×Rad".toList
    Spelling.TimesApart s ∧ Spelling.SameLetters (Spelling.plain s) t ∧ SameExpression s t ∧
      Spelling.TimesApart faulty ∧ Spelling.SameLetters (Spelling.plain faulty) " pi *rAD".toList ∧
        tokenize " pi *rAD".toList = .error (.unknownWord "rad".toList) := by
  intro s t faulty
  have hApart : Spelling.TimesApart s := by decide
  have hLetters : Spelling.SameLetters (Spelling.plain s) t := by decide
  have hFaulty : Spelling.TimesApart faulty := by decide
  have hOther : Spelling.SameLetters (Spelling.plain faulty) " pi *rAD".toList := by decide
  have hError : tokenize faulty = .error (.unknownWord "rad".toList) := by decide +kernel
  refine ⟨hApart, hLetters, (spellings_agree hApart).1 t hLetters, hFaulty, hOther, ?_⟩
  rw [((spellings_agree hFaulty).1 _ hOther).tokens, hError]

-- Two products in a row are no power, but in ASCII they would be one.
example :
    tokenize "2××3".toList ≠ tokenize (Spelling.plain "2××3".toList) := by
  decide +kernel

end DeskCalc
