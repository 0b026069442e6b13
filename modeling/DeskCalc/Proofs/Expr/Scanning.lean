import DeskCalc.Proofs.Expr.Refusal
import DeskCalc.Proofs.Expr.Vocabulary

/-!
# The scan reads longest pieces

A scan tests the next character and takes what follows of the same kind. That
this is the division of a text into longest pieces needs two facts: a text that
does not start with a blank starts with a longest piece, and the scan takes
exactly that piece. Everything else follows by the induction that splits off one
blank or one longest piece at a time.

## Main results

* `Piece.exists_longest` — a visible character starts a longest piece.
* `Piece.Longest.tokenize_of_means`, `Piece.Longest.tokenize_of_faulty` — what
  the scan makes of it.
* `tokenize_iff_scan` — which texts have tokens, which tokens these are, and the
  error of any other text.
-/

namespace DeskCalc

namespace Piece

variable {piece rest : Text}

theorem ne_nil (h : Piece piece) : piece ≠ [] := by
  cases h with
  | word hNonempty => exact hNonempty
  | numeral hNonempty => exact hNonempty
  | doubleStar => simp
  | symbol => simp

/-- A piece with a letter in it is all letters. -/
theorem isAlpha_of_mem (h : Piece piece) {c : Char} (hMem : c ∈ piece)
    (hLetter : c.isAlpha = true) : ∀ d ∈ piece, d.isAlpha = true := by
  cases h with
  | word hNonempty hLetters => exact hLetters
  | doubleStar =>
      have hStar : c = '*' := by simpa using hMem
      rw [hStar] at hLetter
      contradiction
  | numeral hNonempty hNumeric =>
      rw [Numeral.not_isAlpha (hNumeric c hMem)] at hLetter
      contradiction
  | symbol hVisible hNot =>
      rw [List.mem_singleton.1 hMem, hNot] at hLetter
      contradiction

/-- A piece with a digit or a point in it is all digits and points. -/
theorem isNumeric_of_mem (h : Piece piece) {c : Char} (hMem : c ∈ piece)
    (hNumeric : Numeral.isNumeric c = true) : ∀ d ∈ piece, Numeral.isNumeric d = true := by
  cases h with
  | numeral hNonempty hAll => exact hAll
  | doubleStar =>
      have hStar : c = '*' := by simpa using hMem
      rw [hStar] at hNumeric
      contradiction
  | word hNonempty hLetters =>
      have hNot := Numeral.not_isAlpha hNumeric
      rw [hLetters c hMem] at hNot
      contradiction
  | symbol hVisible hLetter hNot =>
      rw [List.mem_singleton.1 hMem, hNot] at hNumeric
      contradiction

/-- A piece that starts with another character is two stars or that character. -/
theorem eq_of_symbol {c : Char} {more : Text} (h : Piece (c :: more))
    (hLetter : c.isAlpha = false) (hNumeric : Numeral.isNumeric c = false) :
    c :: more = ['*', '*'] ∨ more = [] := by
  cases h with
  | doubleStar => exact .inl rfl
  | symbol => exact .inr rfl
  | word hNonempty hLetters =>
      rw [hLetters c (by simp)] at hLetter
      contradiction
  | numeral hNonempty hAll =>
      rw [hAll c (by simp)] at hNumeric
      contradiction

/-- Every piece stands for a token or is an error. -/
theorem means_or_faulty (h : Piece piece) :
    (∃ t, Means piece t) ∨ ∃ error, Faulty piece error := by
  cases h with
  | doubleStar => exact .inl ⟨_, .doubleStar⟩
  | word hNonempty hLetters =>
      by_cases hWord : ∃ t, (piece.map Char.toLower, t) ∈ words
      · obtain ⟨t, hWord⟩ := hWord
        exact .inl ⟨t, .word hLetters hWord⟩
      · exact .inr ⟨_, .word hNonempty hLetters (not_exists.1 hWord)⟩
  | numeral hNonempty hNumeric =>
      by_cases hForm : (∃ c ∈ piece, c.isDigit = true) ∧ piece.count '.' ≤ 1
      · exact .inl ⟨_, .numeral ⟨hNumeric, hForm.1, hForm.2⟩ (nearest_place _)⟩
      · refine .inr ⟨_, .numeral hNonempty hNumeric ?_⟩
        rw [not_and_or, not_le] at hForm
        exact hForm.imp_left (by simp)
  | @symbol c hVisible hLetter hNumeric =>
      by_cases hSymbol : ∃ t, (c, t) ∈ symbols
      · obtain ⟨t, hSymbol⟩ := hSymbol
        exact .inl ⟨t, .symbol hSymbol⟩
      · exact .inr ⟨_, .symbol hVisible hLetter hNumeric (not_exists.1 hSymbol)⟩

/-! ## Longest pieces -/

namespace Longest

/-- In front of fewer characters a longest piece is still longest. -/
theorem of_append {behind : Text} (h : Longest piece (rest ++ behind)) : Longest piece rest where
  isPiece := h.isPiece
  length_le := by
    intro longer hPiece hPrefix
    apply h.length_le longer hPiece
    rw [← List.append_assoc]
    exact hPrefix.trans (List.prefix_append _ _)

/-- A longest piece of one kind is not followed by that kind. -/
theorem run_stops {p : Char → Bool}
    (hKind : ∀ s, s ≠ [] → (∀ c ∈ s, p c = true) → Piece s) (h : Longest piece rest)
    (hRun : ∀ c ∈ piece, p c = true) : ∀ d, rest.head? = some d → p d = false := by
  intro d hd
  obtain ⟨behind, rfl⟩ := List.head?_eq_some_iff.1 hd
  cases hp : p d with
  | false => rfl
  | true =>
      have hLonger : Piece (piece ++ [d]) := by
        apply hKind
        · simp
        · intro c hc
          rcases List.mem_append.1 hc with hc | hc
          · exact hRun c hc
          · rw [List.mem_singleton.1 hc]
            exact hp
      have hPrefix : piece ++ [d] <+: piece ++ d :: behind := ⟨behind, by simp⟩
      have hLength := h.length_le _ hLonger hPrefix
      simp at hLength

/-- A longest star is not followed by another star. -/
theorem star_stops (h : Longest ['*'] rest) : rest.head? ≠ some '*' := by
  intro hd
  obtain ⟨behind, rfl⟩ := List.head?_eq_some_iff.1 hd
  have hPrefix : ['*', '*'] <+: ['*'] ++ '*' :: behind := ⟨behind, rfl⟩
  have hLength := h.length_le _ .doubleStar hPrefix
  simp at hLength

/-- A run of one kind that stops at the rest is longest if every piece with its
first character is of that kind. -/
theorem of_run_stops {p : Char → Bool} (hPiece : Piece piece)
    (hKind : ∀ s, Piece s → ∀ c ∈ s, p c = true → ∀ d ∈ s, p d = true)
    (hRun : ∀ c ∈ piece, p c = true) (hStops : ∀ d, rest.head? = some d → p d = false) :
    Longest piece rest where
  isPiece := hPiece
  length_le := by
    intro longer hLonger hPrefix
    rcases List.prefix_or_prefix_of_prefix hPrefix (List.prefix_append piece rest) with
      hShort | ⟨more, rfl⟩
    · exact hShort.length_le
    · cases more with
      | nil => simp
      | cons d more =>
          -- the piece and its continuation are of one kind, but the rest is not
          obtain ⟨c, hc⟩ := List.exists_mem_of_ne_nil piece hPiece.ne_nil
          have hAll := hKind _ hLonger c (by simp [hc]) (hRun c hc)
          have hHead : rest.head? = some d := by
            obtain ⟨behind, hBehind⟩ := (List.prefix_append_right_inj piece).1 hPrefix
            rw [← hBehind]
            rfl
          have hNot := hStops d hHead
          rw [hAll d (by simp)] at hNot
          contradiction

end Longest

/-- A piece that starts with any other character is longest, unless it is the
first of two stars. -/
theorem Longest.of_symbol {c : Char} {more : Text} (hPiece : Piece (c :: more))
    (hLetter : c.isAlpha = false) (hNumeric : Numeral.isNumeric c = false)
    (hStar : more ≠ [] ∨ ¬ (c = '*' ∧ rest.head? = some '*')) :
    Longest (c :: more) rest where
  isPiece := hPiece
  length_le := by
    intro longer hLonger hPrefix
    obtain ⟨d, further, rfl⟩ := List.exists_cons_of_ne_nil hLonger.ne_nil
    rw [List.cons_append, List.cons_prefix_cons] at hPrefix
    obtain ⟨rfl, hPrefix⟩ := hPrefix
    rcases hLonger.eq_of_symbol hLetter hNumeric with hTwo | rfl
    · cases hTwo
      rcases hPiece.eq_of_symbol hLetter hNumeric with hSame | rfl
      · rw [hSame]
      · obtain ⟨behind, hBehind⟩ := hPrefix
        rw [List.nil_append] at hBehind
        rw [← hBehind] at hStar
        simp at hStar
    · simp

/-- **A visible character starts a longest piece.** -/
theorem exists_longest {c : Char} (hVisible : Text.isBlank c = false) (rest : Text) :
    ∃ piece behind, c :: rest = piece ++ behind ∧ Longest piece behind := by
  have hStops (p : Char → Bool) := Text.dropWhile_stops p rest
  have hTaken (p : Char → Bool) (hc : p c = true) : ∀ d ∈ c :: rest.takeWhile p, p d = true :=
    List.forall_mem_cons.2 ⟨hc, List.all_eq_true.1 List.all_takeWhile⟩
  have hSplit (p : Char → Bool) : c :: rest = (c :: rest.takeWhile p) ++ rest.dropWhile p := by
    rw [List.cons_append, List.takeWhile_append_dropWhile]
  by_cases hLetter : c.isAlpha = true
  · refine ⟨_, _, hSplit Char.isAlpha, ?_⟩
    have hLetters := hTaken Char.isAlpha hLetter
    exact .of_run_stops (.word (by simp) hLetters)
      (fun s hs d hd h => hs.isAlpha_of_mem hd h) hLetters (hStops Char.isAlpha)
  · by_cases hNumeric : Numeral.isNumeric c = true
    · refine ⟨_, _, hSplit Numeral.isNumeric, ?_⟩
      have hRun := hTaken Numeral.isNumeric hNumeric
      exact .of_run_stops (.numeral (by simp) hRun)
        (fun s hs d hd h => hs.isNumeric_of_mem hd h) hRun (hStops Numeral.isNumeric)
    · have hOther : c.isAlpha = false := by simpa using hLetter
      have hPlain : Numeral.isNumeric c = false := by simpa using hNumeric
      by_cases hStar : c = '*' ∧ rest.head? = some '*'
      · obtain ⟨rfl, hSecond⟩ := hStar
        obtain ⟨behind, rfl⟩ := List.head?_eq_some_iff.1 hSecond
        exact ⟨['*', '*'], behind, rfl, .of_symbol .doubleStar hOther hPlain (.inl (by simp))⟩
      · exact ⟨[c], rest, rfl, .of_symbol (.symbol hVisible hOther hPlain) hOther hPlain (.inr hStar)⟩

/-! ## What the scan makes of a longest piece -/

/-- The characters of the vocabulary stand alone. -/
theorem symbol_of_mem {c : Char} {t : Token} (h : (c, t) ∈ symbols) :
    Text.isBlank c = false ∧ c.isAlpha = false ∧ Numeral.isNumeric c = false := by
  have hAll : ∀ entry ∈ symbols, Text.isBlank entry.1 = false ∧ entry.1.isAlpha = false ∧
      Numeral.isNumeric entry.1 = false := by
    decide
  exact hAll (c, t) h

namespace Longest

theorem ofText_word (h : Longest piece rest) (hLetters : ∀ c ∈ piece, c.isAlpha = true) :
    Lexeme.ofText (piece ++ rest) = .word piece :: Lexeme.ofText rest :=
  Lexeme.ofText_word h.isPiece.ne_nil hLetters (h.run_stops (fun _ => .word) hLetters)

theorem ofText_numeral (h : Longest piece rest)
    (hNumeric : ∀ c ∈ piece, Numeral.isNumeric c = true) :
    Lexeme.ofText (piece ++ rest) = .numeral piece :: Lexeme.ofText rest :=
  Lexeme.ofText_numeral h.isPiece.ne_nil hNumeric (h.run_stops (fun _ => .numeral) hNumeric)

theorem ofText_symbol {c : Char} (h : Longest [c] rest) (hVisible : Text.isBlank c = false)
    (hLetter : c.isAlpha = false) (hNumeric : Numeral.isNumeric c = false) :
    Lexeme.ofText ([c] ++ rest) = .symbol c :: Lexeme.ofText rest := by
  apply Lexeme.ofText_symbol hVisible hLetter hNumeric
  rintro ⟨rfl, hSecond⟩
  exact h.star_stops hSecond

/-- **A longest piece with a meaning is the first token.** -/
theorem tokenize_of_means {t : Token} (h : Longest piece rest) (hMeans : Means piece t) :
    tokenize (piece ++ rest) = (tokenize rest).map (t :: ·) := by
  cases hMeans with
  | doubleStar => exact tokenize_of_token (Lexeme.ofText_doubleStar rest) rfl
  | word hLetters hWord =>
      apply tokenize_of_token (h.ofText_word hLetters)
      rw [Lexeme.token, tokenOfWord?_eq_some_iff.2 hWord]
  | numeral hNumeral hNearest =>
      obtain ⟨d, hRead, hValue⟩ := Numeral.exists_read?_eq hNumeral
      apply tokenize_of_token (h.ofText_numeral hNumeral.numeric)
      rw [Lexeme.token, hRead, ← hNearest.place_eq, ← hValue]
  | @symbol c _ hSymbol =>
      obtain ⟨hVisible, hLetter, hNumeric⟩ := symbol_of_mem hSymbol
      apply tokenize_of_token (h.ofText_symbol hVisible hLetter hNumeric)
      rw [Lexeme.token, tokenOfSymbol?_eq_some_iff.2 hSymbol]

/-- **A longest piece without a meaning is the error.** -/
theorem tokenize_of_faulty {error : CalcError} (h : Longest piece rest)
    (hFaulty : Faulty piece error) : tokenize (piece ++ rest) = .error error := by
  cases hFaulty with
  | word hNonempty hLetters hWord =>
      apply tokenize_of_error (h.ofText_word hLetters)
      have hNone : Lexeme.tokenOfWord? (piece.map Char.toLower) = none := by
        rw [Option.eq_none_iff_forall_not_mem]
        intro t ht
        exact hWord t (tokenOfWord?_eq_some_iff.1 ht)
      rw [Lexeme.token, hNone]
  | numeral hNonempty hNumeric hForm =>
      apply tokenize_of_error (h.ofText_numeral hNumeric)
      have hNone : Numeral.read? piece = none := by
        apply Numeral.read?_eq_none hNumeric
        rintro ⟨-, ⟨c, hc, hDigit⟩, hPoint⟩
        rcases hForm with hNoDigit | hPoints
        · rw [hNoDigit c hc] at hDigit
          contradiction
        · omega
      rw [Lexeme.token, hNone]
  | @symbol c hVisible hLetter hNumeric hSymbol =>
      apply tokenize_of_error (h.ofText_symbol hVisible hLetter hNumeric)
      have hNone : Lexeme.tokenOfSymbol? c = none := by
        rw [Option.eq_none_iff_forall_not_mem]
        intro t ht
        exact hSymbol t (tokenOfSymbol?_eq_some_iff.1 ht)
      rw [Lexeme.token, hNone]

/-- A longest piece keeps apart from what follows, unless that is a star. -/
theorem apart (h : Longest piece rest) (hStar : rest.head? ≠ some '*') :
    Lexeme.Apart piece rest := by
  intro c hc d hd
  have hMem := List.mem_of_getLast? hc
  by_contra hFuses
  simp only [Lexeme.fuses, Bool.not_eq_false, Bool.or_eq_true, Bool.and_eq_true,
    beq_iff_eq] at hFuses
  rcases hFuses with (⟨hLeft, hRight⟩ | ⟨hLeft, hRight⟩) | ⟨-, rfl⟩
  · have hLetters := h.isPiece.isAlpha_of_mem hMem hLeft
    rw [h.run_stops (fun _ => .word) hLetters d hd] at hRight
    contradiction
  · have hNumeric := h.isPiece.isNumeric_of_mem hMem hLeft
    rw [h.run_stops (fun _ => .numeral) hNumeric d hd] at hRight
    contradiction
  · exact hStar hd

end Longest

/-- No star is an error. -/
theorem Faulty.head_ne_star {error : CalcError} (h : Faulty piece error) (rest : Text) :
    (piece ++ rest).head? ≠ some '*' := by
  intro hHead
  cases h with
  | word hNonempty hLetters =>
      obtain ⟨c, tail, rfl⟩ := List.exists_cons_of_ne_nil hNonempty
      cases hHead
      exact absurd (hLetters '*' (by simp)) (by decide)
  | numeral hNonempty hNumeric =>
      obtain ⟨c, tail, rfl⟩ := List.exists_cons_of_ne_nil hNonempty
      cases hHead
      exact absurd (hNumeric '*' (by simp)) (by decide)
  | symbol hVisible hLetter hNumeric hSymbol =>
      cases hHead
      exact hSymbol (.binary .mul) (by decide)

end Piece

/-! ## Whole texts -/

/-- Every text is taken apart by splitting off one blank or one longest piece at
a time. -/
theorem Scan.induction {P : Text → Prop} (hNil : P [])
    (hBlank : ∀ c rest, Text.isBlank c = true → P rest → P (c :: rest))
    (hPiece : ∀ piece rest, Piece.Longest piece rest → P rest → P (piece ++ rest)) (s : Text) :
    P s := by
  induction hLength : s.length using Nat.strong_induction_on generalizing s with
  | _ length ih =>
      subst hLength
      cases s with
      | nil => exact hNil
      | cons c rest =>
          by_cases hc : Text.isBlank c = true
          · exact hBlank c rest hc (ih rest.length (by simp) rest rfl)
          · obtain ⟨piece, behind, hSplit, hLongest⟩ :=
              Piece.exists_longest (by simpa using hc) rest
            have hPos := List.length_pos_iff.2 hLongest.isPiece.ne_nil
            rw [hSplit]
            apply hPiece piece behind hLongest
            apply ih behind.length _ behind rfl
            rw [hSplit, List.length_append]
            omega

/-- What stands for a token is a piece. -/
theorem Piece.Means.isPiece {piece : Text} {t : Token} (h : Means piece t) : Piece piece := by
  cases h with
  | doubleStar => exact .doubleStar
  | word hLetters hWord =>
      have hAll : ∀ entry ∈ words, entry.1 ≠ [] := by decide
      have hNonempty : piece.map Char.toLower ≠ [] := hAll _ hWord
      exact .word (by simpa using hNonempty) hLetters
  | numeral hNumeral =>
      obtain ⟨c, hc, -⟩ := hNumeral.digit
      exact .numeral (List.ne_nil_of_mem hc) hNumeral.numeric
  | symbol hSymbol =>
      obtain ⟨hVisible, hLetter, hNumeric⟩ := symbol_of_mem hSymbol
      exact .symbol hVisible hLetter hNumeric

/-- What stands for a token is that token when it stands alone. -/
theorem Piece.Means.tokenize_eq {piece : Text} {t : Token} (h : Means piece t) :
    tokenize piece = .ok [t] := by
  have hLongest : Longest piece [] := by
    refine ⟨h.isPiece, ?_⟩
    intro longer _ hPrefix
    simpa using hPrefix.length_le
  have hFirst := hLongest.tokenize_of_means h
  rw [List.append_nil, tokenize_nil] at hFirst
  exact hFirst

/-- What stands for a token is the first token of every text that it keeps apart
from. -/
theorem Piece.Means.tokenize_append {piece rest : Text} {t : Token} (h : Means piece t)
    (hApart : Lexeme.Apart piece rest) : tokenize (piece ++ rest) = (tokenize rest).map (t :: ·) := by
  rw [DeskCalc.tokenize_append hApart, h.tokenize_eq]
  cases tokenize rest with
  | ok tokens => rfl
  | error error => rfl

theorem Scan.tokenize_eq {s : Text} {tokens : List Token} (h : Scan s tokens) :
    tokenize s = .ok tokens := by
  induction h with
  | nil => exact tokenize_nil
  | blank hBlank hRest ih => rw [tokenize_blank hBlank, ih]
  | piece hLongest hMeans hRest ih =>
      rw [hLongest.tokenize_of_means hMeans, ih]
      rfl

/-- What has tokens falls into blanks and longest pieces that stand for them. -/
theorem scan_of_tokenize {s : Text} {tokens : List Token} (h : tokenize s = .ok tokens) :
    Scan s tokens := by
  induction s using Scan.induction generalizing tokens with
  | hNil =>
      rw [tokenize_nil] at h
      cases h
      exact .nil
  | hBlank c rest hBlank ih =>
      rw [tokenize_blank hBlank] at h
      exact .blank hBlank (ih h)
  | hPiece piece rest hLongest ih =>
      rcases hLongest.isPiece.means_or_faulty with ⟨t, hMeans⟩ | ⟨error, hFaulty⟩
      · rw [hLongest.tokenize_of_means hMeans] at h
        cases hRest : tokenize rest with
        | error error =>
            rw [hRest] at h
            cases h
        | ok later =>
            rw [hRest] at h
            cases h
            exact .piece hLongest hMeans (ih hRest)
      · rw [hLongest.tokenize_of_faulty hFaulty] at h
        cases h

/-- Where a scan fails. -/
structure FailsAt (before piece rest : Text) (error : CalcError) : Prop where
  /-- The text in front of the place has tokens. -/
  tokens : ∃ tokens, tokenize before = .ok tokens
  /-- No lexeme reaches across the place. -/
  apart : Lexeme.Apart before piece
  longest : Piece.Longest piece rest
  faulty : Piece.Faulty piece error

namespace FailsAt

variable {front before piece rest : Text} {error : CalcError}

theorem tokenize_eq (h : FailsAt before piece rest error) :
    tokenize (before ++ (piece ++ rest)) = .error error := by
  obtain ⟨tokens, hTokens⟩ := h.tokens
  have hSeam : Lexeme.Apart before (piece ++ rest) := by
    intro c hc d hd
    rw [List.head?_append_of_ne_nil _ h.longest.isPiece.ne_nil] at hd
    exact h.apart c hc d hd
  rw [tokenize_append hSeam, hTokens, h.longest.tokenize_of_faulty h.faulty]
  rfl

/-- A text put in front of a failing one fails at the same place if it has
tokens itself. -/
theorem append (h : FailsAt before piece rest error)
    (hTokens : ∃ tokens, tokenize (front ++ before) = .ok tokens)
    (hSeam : before = [] → Lexeme.Apart front piece) :
    FailsAt (front ++ before) piece rest error where
  tokens := hTokens
  apart := by
    by_cases hEmpty : before = []
    · rw [hEmpty, List.append_nil]
      exact hSeam hEmpty
    · intro c hc
      rw [List.getLast?_append_of_ne_nil _ hEmpty] at hc
      exact h.apart c hc
  longest := h.longest
  faulty := h.faulty

end FailsAt

/-- A text without tokens fails somewhere. -/
theorem exists_failsAt {s : Text} {error : CalcError} (h : tokenize s = .error error) :
    ∃ before piece rest, s = before ++ (piece ++ rest) ∧ FailsAt before piece rest error := by
  induction s using Scan.induction with
  | hNil =>
      rw [tokenize_nil] at h
      cases h
  | hBlank c rest hBlank ih =>
      rw [tokenize_blank hBlank] at h
      obtain ⟨before, piece, behind, rfl, hFails⟩ := ih h
      refine ⟨[c] ++ before, piece, behind, rfl, hFails.append ?_ ?_⟩
      · obtain ⟨tokens, hTokens⟩ := hFails.tokens
        exact ⟨tokens, (tokenize_blank hBlank before).trans hTokens⟩
      · intro _
        exact .blanks_left (by simpa using hBlank) piece
  | hPiece front rest hLongest ih =>
      rcases hLongest.isPiece.means_or_faulty with ⟨t, hMeans⟩ | ⟨first, hFaulty⟩
      · rw [hLongest.tokenize_of_means hMeans] at h
        have hRest : tokenize rest = .error error := by
          cases hRest : tokenize rest with
          | ok later =>
              rw [hRest] at h
              cases h
          | error other =>
              rw [hRest] at h
              exact h
        obtain ⟨before, piece, behind, rfl, hFails⟩ := ih hRest
        refine ⟨front ++ before, piece, behind, by rw [List.append_assoc], hFails.append ?_ ?_⟩
        · obtain ⟨tokens, hTokens⟩ := hFails.tokens
          have hFront := hLongest.of_append.tokenize_of_means hMeans
          rw [hTokens] at hFront
          exact ⟨t :: tokens, hFront⟩
        · rintro rfl
          intro c hc d hd
          rw [List.nil_append] at hLongest
          apply hLongest.apart (hFails.faulty.head_ne_star behind) c hc d
          rwa [List.head?_append_of_ne_nil _ hFails.longest.isPiece.ne_nil]
      · rw [hLongest.tokenize_of_faulty hFaulty] at h
        cases h
        refine ⟨[], front, rest, rfl, ⟨⟨[], tokenize_nil⟩, ?_, hLongest, hFaulty⟩⟩
        intro c hc
        cases hc

/-- Where the characters are those of the vocabulary and blanks, none is an error. -/
theorem evaluate_ne_invalidCharacter {s : Text}
    (hKnown : ∀ c ∈ s, Text.isBlank c = true ∨ c.isAlpha = true ∨
      Numeral.isNumeric c = true ∨ c ∈ symbols.map Prod.fst) (c : Char) :
    evaluate s ≠ .error (.invalidCharacter c) := by
  intro h
  have hScan : tokenize s = .error (.invalidCharacter c) := by
    rcases evaluate_error_cases h with hScan | ⟨tokens, hTokens, hOrder⟩ | hValue
    · exact hScan
    · by_cases hEmpty : tokens = []
      · subst hEmpty
        cases hOrder
      · exact (toRpn_error hEmpty (negate_not_mem_tokenize hTokens) hOrder).elim
    · exact hValue.elim
  obtain ⟨before, piece, rest, rfl, hFails⟩ := exists_failsAt hScan
  obtain ⟨-, -, -, hFaulty⟩ := hFails
  cases hFaulty with
  | symbol hVisible hLetter hNumeric hSymbol =>
      rcases hKnown c (by simp) with hc | hc | hc | hc
      · simp [hVisible] at hc
      · simp [hLetter] at hc
      · simp [hNumeric] at hc
      · obtain ⟨⟨_, t⟩, hMem, rfl⟩ := List.mem_map.1 hc
        exact hSymbol t hMem

/-- **What a scan makes of a text.** A text has tokens exactly if it falls into
blanks and longest pieces of the vocabulary, and these are their tokens. Any
other text has the error of the first longest piece that is not of the
vocabulary: the text in front of it has tokens, and the piece stops short on
either side. -/
theorem tokenize_iff_scan (s : Text) :
    (∀ tokens, tokenize s = .ok tokens ↔ Scan s tokens) ∧
      ∀ error, tokenize s = .error error ↔
        ∃ before piece rest, s = before ++ (piece ++ rest) ∧
          FailsAt before piece rest error := by
  constructor
  · intro tokens
    exact ⟨scan_of_tokenize, Scan.tokenize_eq⟩
  · intro error
    constructor
    · exact exists_failsAt
    · rintro ⟨before, piece, rest, rfl, hFails⟩
      exact hFails.tokenize_eq

-- Three stars are two and one, and a second point spoils the whole run.
example :
    tokenize "e***π".toList =
      .ok [.constant .e, .binary .pow, .binary .mul, .constant .pi] ∧
    tokenize "e*1.2.3".toList = .error (.invalidNumeral "1.2.3".toList) := by
  decide +kernel

end DeskCalc
