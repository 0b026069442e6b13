import DeskCalc.Proofs.Expr.Scanning

/-!
# Blanks only separate

A blank parts a text wherever it stands: the tokens in front of it and behind it
are found as if each part stood alone. Where a lexeme ends anyway, that makes no
difference at all, so a text may be spread out by blanks at its ends, beside other
blanks and between any two lexemes.

The one thing to see is that a longest piece stays one when the text behind it is
spread out: what follows it then begins as before or with a blank, and no piece
goes on over a blank.

## Main results

* `Piece.Longest.of_head` — whether a piece is longest is seen from the next
  character.
* `Spread.ofText_eq` — a text that is spread out keeps its lexemes.
* `blanks_only_separate` — tokens, order, value and display of both.
-/

namespace DeskCalc

/-- The second text is the first one with blanks added at its ends, beside its
blanks and between its lexemes. -/
inductive Spread : Text → Text → Prop where
  | nil : Spread [] []
  | added {c : Char} {s t : Text} (hBlank : Text.isBlank c = true) (h : Spread s t) :
      Spread s (c :: t)
  | kept {c : Char} {s t : Text} (hBlank : Text.isBlank c = true) (h : Spread s t) :
      Spread (c :: s) (c :: t)
  | piece {piece s t : Text} (hLongest : Piece.Longest piece s) (h : Spread s t) :
      Spread (piece ++ s) (piece ++ t)

namespace Piece

variable {piece rest behind : Text}

/-- There is no blank in a piece. -/
theorem not_isBlank (h : Piece piece) : ∀ c ∈ piece, Text.isBlank c = false := by
  cases h with
  | doubleStar =>
      intro c hc
      have hStar : c = '*' := by simpa using hc
      rw [hStar]
      decide
  | word hNonempty hLetters => exact fun c hc => Lexeme.not_isBlank_of_isAlpha (hLetters c hc)
  | numeral hNonempty hNumeric => exact fun c hc => Numeral.not_isBlank (hNumeric c hc)
  | symbol hVisible => exact fun c hc => List.mem_singleton.1 hc ▸ hVisible

/-- What a piece begins with is a piece, too, if it is more than one character. -/
theorem of_prefix {front more : Text} (h : Piece (front ++ more)) (hLength : 2 ≤ front.length) :
    Piece front := by
  have hNonempty : front ≠ [] := by
    rintro rfl
    contradiction
  generalize hText : front ++ more = text at h
  have hMem : ∀ c ∈ front, c ∈ text := fun c hc => hText ▸ List.mem_append_left more hc
  have hSum : front.length + more.length = text.length := by rw [← hText, List.length_append]
  cases h with
  | word _ hLetters => exact .word hNonempty fun c hc => hLetters c (hMem c hc)
  | numeral _ hNumeric => exact .numeral hNonempty fun c hc => hNumeric c (hMem c hc)
  | doubleStar =>
      rw [List.length_cons, List.length_singleton] at hSum
      have hMore : more = [] := List.length_eq_zero_iff.1 (by omega)
      rw [hMore, List.append_nil] at hText
      rw [hText]
      exact .doubleStar
  | symbol =>
      rw [List.length_singleton] at hSum
      omega

/-- **Whether a piece is longest is seen from the next character**: one that is
longest in front of one text is so in front of every text that begins alike or
with a blank. -/
theorem Longest.of_head (h : Longest piece rest)
    (hHead : ∀ d ∈ behind.head?, Text.isBlank d = true ∨ rest.head? = some d) :
    Longest piece behind where
  isPiece := h.isPiece
  length_le := by
    intro longer hLonger hPrefix
    rcases List.prefix_or_prefix_of_prefix hPrefix (List.prefix_append piece behind) with
      hShort | ⟨more, rfl⟩
    · exact hShort.length_le
    · cases more with
      | nil => simp
      | cons d more =>
          obtain ⟨tail, hBehind⟩ := (List.prefix_append_right_inj piece).1 hPrefix
          rw [← hBehind] at hHead
          rcases hHead d rfl with hBlank | hSame
          · rw [hLonger.not_isBlank d (by simp)] at hBlank
            contradiction
          · -- the piece would be longer in front of the first text, too
            obtain ⟨later, rfl⟩ := List.head?_eq_some_iff.1 hSame
            have hPos := List.length_pos_iff.2 h.isPiece.ne_nil
            have hNext : Piece (piece ++ [d]) := by
              have hMore : piece ++ d :: more = piece ++ [d] ++ more := by simp
              rw [hMore] at hLonger
              apply hLonger.of_prefix
              rw [List.length_append, List.length_singleton]
              omega
            have hLength := h.length_le _ hNext ⟨later, by simp⟩
            simp at hLength

/-- A longest piece is the first lexeme, whatever follows. -/
theorem exists_lexeme (h : Piece piece) :
    ∃ l, ∀ rest, Longest piece rest →
      Lexeme.ofText (piece ++ rest) = l :: Lexeme.ofText rest := by
  cases h with
  | doubleStar => exact ⟨.doubleStar, fun rest _ => Lexeme.ofText_doubleStar rest⟩
  | word hNonempty hLetters => exact ⟨.word piece, fun rest h => h.ofText_word hLetters⟩
  | numeral hNonempty hNumeric => exact ⟨.numeral piece, fun rest h => h.ofText_numeral hNumeric⟩
  | @symbol c hVisible hLetter hNumeric =>
      exact ⟨.symbol c, fun rest h => h.ofText_symbol hVisible hLetter hNumeric⟩

end Piece

namespace Spread

variable {s t : Text}

/-- A text that is spread out begins as before or with a blank. -/
theorem head (h : Spread s t) :
    ∀ d ∈ t.head?, Text.isBlank d = true ∨ s.head? = some d := by
  intro d hd
  cases h with
  | nil => cases hd
  | added hBlank =>
      cases hd
      exact .inl hBlank
  | kept hBlank =>
      cases hd
      exact .inl hBlank
  | piece hLongest =>
      have hNonempty := hLongest.isPiece.ne_nil
      rw [List.head?_append_of_ne_nil _ hNonempty] at hd ⊢
      exact .inr hd

/-- **A text that is spread out keeps its lexemes.** -/
theorem ofText_eq (h : Spread s t) : Lexeme.ofText t = Lexeme.ofText s := by
  induction h with
  | nil => rfl
  | added hBlank h ih => rw [Lexeme.ofText_blank hBlank, ih]
  | kept hBlank h ih => rw [Lexeme.ofText_blank hBlank, Lexeme.ofText_blank hBlank, ih]
  | piece hLongest h ih =>
      obtain ⟨l, hFirst⟩ := hLongest.isPiece.exists_lexeme
      rw [hFirst _ (hLongest.of_head h.head), hFirst _ hLongest, ih]

theorem tokenize_eq (h : Spread s t) : tokenize t = tokenize s := by
  rw [tokenize, h.ofText_eq, tokenize]

end Spread

/-- **Blanks only separate.** The tokens of a text with a blank in it are those of
the part in front of it and those of the part behind it, and the error of the first
part comes before that of the second. A text that is spread out by blanks at its
ends, beside its blanks and between its lexemes has the same tokens, the same
ordered form, the same value and the same display, and the same errors. -/
theorem blanks_only_separate :
    (∀ (a b : Text) (c : Char), Text.isBlank c = true →
      tokenize (a ++ c :: b) = do
        let first ← tokenize a
        let second ← tokenize b
        return first ++ second) ∧
    ∀ s t : Text, Spread s t →
      tokenize t = tokenize s ∧ analyse t = analyse s ∧ evaluate t = evaluate s ∧
        ∀ places, Display.evaluate t places = Display.evaluate s places := by
  constructor
  · intro a b c hBlank
    exact tokenize_append_blank hBlank a b
  · intro s t h
    have hTokens := h.tokenize_eq
    refine ⟨hTokens, ?_, evaluate_congr hTokens, Display.evaluate_congr hTokens⟩
    rw [analyse, analyse, hTokens]

/-- A blank between two stars makes two products of a power, and blanks of several
kinds make nothing else of a quotient. -/
theorem blanks_only_separate_stars :
    let s : Text := "1.5/2".toList
    let t : Text := "\u00A01.5 /\t2 ".toList
    Text.isBlank ' ' = true ∧ tokenize ("*".toList ++ ' ' :: "*".toList) =
      .ok [.binary .mul, .binary .mul] ∧ Spread s t ∧ tokenize t = tokenize s ∧
        Display.evaluate t 10 = .ok "0.75".toList := by
  intro s t
  obtain ⟨hParts, hSpread⟩ := blanks_only_separate
  have hStar : tokenize "*".toList = .ok [.binary .mul] := by decide +kernel
  have hTokens := hParts "*".toList "*".toList ' ' rfl
  rw [hStar] at hTokens
  have hNumeral {run rest : Text} (hNonempty : run ≠ [])
      (hRun : run.all Numeral.isNumeric = true)
      (hStops : ∀ d, rest.head? = some d → Numeral.isNumeric d = false) :
      Piece.Longest run rest := by
    have hNumeric := List.all_eq_true.1 hRun
    exact .of_run_stops (.numeral hNonempty hNumeric) (fun s hs c hc h => hs.isNumeric_of_mem hc h)
      hNumeric hStops
  have hLast : Spread "2".toList "2 ".toList := by
    have hLongest : Piece.Longest "2".toList [] := hNumeral (by decide) rfl (by simp)
    exact .piece hLongest (.added rfl .nil)
  have hQuotient : Spread "/2".toList " /\t2 ".toList := by
    have hLongest : Piece.Longest ['/'] "2".toList :=
      .of_symbol (.symbol rfl rfl rfl) rfl rfl (.inr (by decide))
    exact .added rfl (.piece hLongest (.added rfl hLast))
  have hText : Spread s t := by
    have hLongest : Piece.Longest "1.5".toList "/2".toList := by
      apply hNumeral (by decide) rfl
      rintro d ⟨⟩
      rfl
    exact .added rfl (.piece hLongest hQuotient)
  obtain ⟨hSame, -, -, hShown⟩ := hSpread s t hText
  refine ⟨rfl, hTokens, hText, hSame, ?_⟩
  rw [hShown]
  decide +kernel

end DeskCalc
