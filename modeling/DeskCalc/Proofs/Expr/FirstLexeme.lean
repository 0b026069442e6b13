import DeskCalc.Proofs.Expr.Seam
import DeskCalc.Proofs.Numeric.Numeral

/-!
# The first lexeme of a text

A scan looks at one character and takes the run it starts. `Lexeme.ofText` is
taken apart here once, by the kind of the first character; `tokenize` follows
lexeme by lexeme, up to the first one without a meaning.

## Main results

* `Lexeme.ofText_word`, `Lexeme.ofText_numeral`, `Lexeme.ofText_doubleStar`,
  `Lexeme.ofText_symbol` — the lexeme in front.
* `tokenize_of_token`, `tokenize_of_error` — the token or the error in front.
* `Lexeme.Symbol.tokenize_cons` — a character that is a token wherever it stands.
-/

namespace DeskCalc

/-! ## Characters of numerals -/

/-- The characters of numerals. -/
def Numeral.characters : Text := ['0', '1', '2', '3', '4', '5', '6', '7', '8', '9', '.']

theorem Numeral.mem_characters {c : Char} (h : isNumeric c = true) : c ∈ characters := by
  have hCode : c = Char.ofNat c.toNat := (Char.ofNat_toNat c).symm
  have hRange : 48 ≤ c.toNat ∧ c.toNat ≤ 57 ∨ c.toNat = 46 := by
    unfold isNumeric at h
    rw [Bool.or_eq_true, beq_iff_eq, Char.isDigit, Bool.and_eq_true, decide_eq_true_eq,
      decide_eq_true_eq] at h
    rcases h with ⟨hLow, hHigh⟩ | hPoint
    · exact .inl ⟨hLow, hHigh⟩
    · exact .inr (congrArg Char.toNat hPoint)
  generalize c.toNat = code at hCode hRange
  have hAll : ∀ k : Fin 58, 48 ≤ k.val ∨ k.val = 46 → Char.ofNat k.val ∈ characters := by decide
  have hBound : code < 58 := by omega
  have hCases : 48 ≤ code ∨ code = 46 := by omega
  rw [hCode]
  exact hAll ⟨code, hBound⟩ hCases

theorem Numeral.not_isBlank {c : Char} (h : isNumeric c = true) : Text.isBlank c = false := by
  have hAll : (characters.all fun d => !Text.isBlank d) = true := by decide
  have hNot := List.all_eq_true.1 hAll c (mem_characters h)
  rwa [Bool.not_eq_true'] at hNot

theorem Numeral.not_isAlpha {c : Char} (h : isNumeric c = true) : c.isAlpha = false := by
  have hAll : (characters.all fun d => !d.isAlpha) = true := by decide
  have hNot := List.all_eq_true.1 hAll c (mem_characters h)
  rwa [Bool.not_eq_true'] at hNot

/-! ## The first lexeme -/

namespace Lexeme

variable {c : Char} {run rest : Text}

theorem not_isBlank_of_isAlpha (h : c.isAlpha = true) : Text.isBlank c = false := by
  have hCode := (code_of_fuses (fuses_of_isAlpha c c h h)).1
  cases hBlank : Text.isBlank c with
  | false => rfl
  | true =>
      have := code_of_isBlank hBlank
      omega

theorem ofText_blank (h : Text.isBlank c = true) (rest : Text) :
    ofText (c :: rest) = ofText rest := by
  rw [ofText, if_pos h]

/-- A blank parts a text wherever it stands. -/
theorem ofText_append_blank (h : Text.isBlank c = true) (a b : Text) :
    ofText (a ++ c :: b) = ofText a ++ ofText b := by
  have hApart : Apart a [c] := .blanks_right a (by simpa using h)
  have hSeam : Apart a (c :: b) := hApart
  rw [ofText_append hSeam, ofText_blank h]

theorem ofText_word (hNonempty : run ≠ []) (hRun : ∀ d ∈ run, d.isAlpha = true)
    (hStops : ∀ d, rest.head? = some d → d.isAlpha = false) :
    ofText (run ++ rest) = .word run :: ofText rest := by
  obtain ⟨c, tail, rfl⟩ := List.exists_cons_of_ne_nil hNonempty
  obtain ⟨hFirst, hTail⟩ := List.forall_mem_cons.1 hRun
  obtain ⟨hTake, hDrop⟩ := Text.takeWhile_dropWhile_run hTail hStops
  have hVisible : ¬ Text.isBlank c = true := by simp [not_isBlank_of_isAlpha hFirst]
  rw [List.cons_append, ofText, if_neg hVisible, if_pos hFirst, hTake, hDrop]

theorem ofText_numeral (hNonempty : run ≠ []) (hRun : ∀ d ∈ run, Numeral.isNumeric d = true)
    (hStops : ∀ d, rest.head? = some d → Numeral.isNumeric d = false) :
    ofText (run ++ rest) = .numeral run :: ofText rest := by
  obtain ⟨c, tail, rfl⟩ := List.exists_cons_of_ne_nil hNonempty
  obtain ⟨hFirst, hTail⟩ := List.forall_mem_cons.1 hRun
  obtain ⟨hTake, hDrop⟩ := Text.takeWhile_dropWhile_run hTail hStops
  have hVisible : ¬ Text.isBlank c = true := by simp [Numeral.not_isBlank hFirst]
  have hLetter : ¬ c.isAlpha = true := by simp [Numeral.not_isAlpha hFirst]
  rw [List.cons_append, ofText, if_neg hVisible, if_neg hLetter, if_pos hFirst, hTake, hDrop]

theorem ofText_doubleStar (rest : Text) :
    ofText ('*' :: '*' :: rest) = .doubleStar :: ofText rest := by
  have hVisible : ¬ Text.isBlank '*' = true := by decide
  have hLetter : ¬ '*'.isAlpha = true := by decide
  have hNumeric : ¬ Numeral.isNumeric '*' = true := by decide
  rw [ofText, if_neg hVisible, if_neg hLetter, if_neg hNumeric, if_pos ⟨rfl, rfl⟩]
  rfl

theorem ofText_symbol (hVisible : Text.isBlank c = false) (hLetter : c.isAlpha = false)
    (hNumeric : Numeral.isNumeric c = false) (hStar : ¬ (c = '*' ∧ rest.head? = some '*')) :
    ofText (c :: rest) = .symbol c :: ofText rest := by
  rw [ofText, if_neg (by simp [hVisible]), if_neg (by simp [hLetter]),
    if_neg (by simp [hNumeric]), if_neg hStar]

end Lexeme

/-! ## The first token -/

theorem tokenize_nil : tokenize [] = .ok [] := by
  rw [tokenize, Lexeme.ofText]
  rfl

theorem tokenize_blank {c : Char} (h : Text.isBlank c = true) (rest : Text) :
    tokenize (c :: rest) = tokenize rest := by
  rw [tokenize, Lexeme.ofText_blank h, tokenize]

/-- The tokens of a text with a blank inside are those in front of it and those
behind it. -/
theorem tokenize_append_blank {c : Char} (h : Text.isBlank c = true) (a b : Text) :
    tokenize (a ++ c :: b) = do
      let first ← tokenize a
      let second ← tokenize b
      return first ++ second := by
  rw [tokenize, Lexeme.ofText_append_blank h, List.mapM_append]
  rfl

theorem tokenize_of_token {s rest : Text} {l : Lexeme} {t : Token}
    (hLexemes : Lexeme.ofText s = l :: Lexeme.ofText rest) (hToken : l.token = .ok t) :
    tokenize s = (tokenize rest).map (t :: ·) := by
  rw [tokenize, hLexemes, List.mapM_cons, hToken, tokenize]
  cases (Lexeme.ofText rest).mapM Lexeme.token with
  | ok tokens => rfl
  | error error => rfl

theorem tokenize_of_error {s rest : Text} {l : Lexeme} {error : CalcError}
    (hLexemes : Lexeme.ofText s = l :: Lexeme.ofText rest) (hToken : l.token = .error error) :
    tokenize s = .error error := by
  rw [tokenize, hLexemes, List.mapM_cons, hToken]
  rfl

/-- Wherever the character stands, it is a token of its own. -/
def Lexeme.Symbol (c : Char) (t : Token) : Prop :=
  Text.isBlank c = false ∧ c.isAlpha = false ∧ Numeral.isNumeric c = false ∧ c ≠ '*' ∧
    tokenOfSymbol? c = some t

instance (c : Char) (t : Token) : Decidable (Lexeme.Symbol c t) :=
  inferInstanceAs (Decidable (_ ∧ _ ∧ _ ∧ _ ∧ _))

namespace Lexeme.Symbol

variable {c : Char} {t : Token}

theorem apart (h : Symbol c t) (a b : Text) : Apart a (c :: b) := by
  obtain ⟨-, hAlpha, hNumeric, hStar, -⟩ := h
  rintro x - d hd
  obtain rfl : c = d := by simpa using hd
  simp [fuses, hAlpha, hNumeric, hStar]

/-- The character keeps apart from what stands behind it, too. -/
theorem apart_left (h : Symbol c t) (a b : Text) : Apart (a ++ [c]) b := by
  obtain ⟨-, hAlpha, hNumeric, hStar, -⟩ := h
  intro x hx d _
  obtain rfl : c = x := by simpa using hx
  simp [fuses, hAlpha, hNumeric, hStar]

theorem tokenize_cons (h : Symbol c t) (s : Text) :
    tokenize (c :: s) = (tokenize s).map (t :: ·) := by
  obtain ⟨hVisible, hAlpha, hNumeric, hStar, hMeaning⟩ := h
  apply tokenize_of_token (ofText_symbol hVisible hAlpha hNumeric fun h => hStar h.1)
  rw [token, hMeaning]

end Lexeme.Symbol

end DeskCalc
