import DeskCalc.Expr.Lexeme
import DeskCalc.Proofs.Numeric.Nearest
import DeskCalc.Proofs.Numeric.NumeralValue

/-!
# The vocabulary of a text

What a text may be written with is said here without reference to a scan. A
*piece* is a part of a text that could be taken as a whole: a run of letters, a
run of digits and points, two stars, or one other character that is not blank.
Pieces are taken from the left, each as long as it can be; `Piece.Means` gives
the token of a piece and `Piece.Faulty` the error of one that means nothing.

`Scan s tokens` says that the text `s` falls into blanks and pieces with these
tokens.
-/

namespace DeskCalc

/-- The characters that are tokens by themselves. -/
def symbols : List (Char × Token) :=
  [('(', .opening), (')', .closing), ('+', .binary .add), ('-', .binary .sub),
   ('−', .binary .sub), ('*', .binary .mul), ('×', .binary .mul), ('/', .binary .div),
   ('÷', .binary .div), ('^', .binary .pow), ('π', .constant .pi), ('√', .function .sqrt)]

/-- The words, in lower case. -/
def words : List (Text × Token) :=
  [(['p', 'i'], .constant .pi), (['e'], .constant .e),
   (['s', 'i', 'n'], .function .sin), (['c', 'o', 's'], .function .cos),
   (['t', 'a', 'n'], .function .tan), (['s', 'q', 'r', 't'], .function .sqrt),
   (['l', 'o', 'g'], .function .log), (['l', 'n'], .function .ln),
   (['a', 'b', 's'], .function .abs)]

/-- A text that a scan could take as a whole. -/
inductive Piece : Text → Prop where
  | doubleStar : Piece ['*', '*']
  | word {letters : Text} (hNonempty : letters ≠ [])
      (hLetters : ∀ c ∈ letters, c.isAlpha = true) : Piece letters
  | numeral {run : Text} (hNonempty : run ≠ [])
      (hNumeric : ∀ c ∈ run, Numeral.isNumeric c = true) : Piece run
  | symbol {c : Char} (hVisible : Text.isBlank c = false) (hLetter : c.isAlpha = false)
      (hNumeric : Numeral.isNumeric c = false) : Piece [c]

namespace Piece

/-- No longer piece starts where `piece` does, in front of `rest`. -/
structure Longest (piece rest : Text) : Prop where
  isPiece : Piece piece
  length_le : ∀ longer, Piece longer → longer <+: piece ++ rest → longer.length ≤ piece.length

/-- The token that a piece stands for. -/
inductive Means : Text → Token → Prop where
  | doubleStar : Means ['*', '*'] (.binary .pow)
  | word {letters : Text} {t : Token} (hLetters : ∀ c ∈ letters, c.isAlpha = true)
      (hWord : (letters.map Char.toLower, t) ∈ words) : Means letters t
  | numeral {run : Text} {i : ℕ} (hNumeral : Numeral.IsNumeral run)
      (hNearest : Nearest (Numeral.value run) i) : Means run (.number (.ofPlace false i))
  | symbol {c : Char} {t : Token} (hSymbol : (c, t) ∈ symbols) : Means [c] t

/-- The error of a piece that stands for no token. -/
inductive Faulty : Text → CalcError → Prop where
  | word {letters : Text} (hNonempty : letters ≠ [])
      (hLetters : ∀ c ∈ letters, c.isAlpha = true)
      (hWord : ∀ t, (letters.map Char.toLower, t) ∉ words) :
      Faulty letters (.unknownWord (letters.map Char.toLower))
  | numeral {run : Text} (hNonempty : run ≠ [])
      (hNumeric : ∀ c ∈ run, Numeral.isNumeric c = true)
      (hNumeral : (∀ c ∈ run, c.isDigit = false) ∨ 1 < run.count '.') :
      Faulty run (.invalidNumeral run)
  | symbol {c : Char} (hVisible : Text.isBlank c = false) (hLetter : c.isAlpha = false)
      (hNumeric : Numeral.isNumeric c = false) (hSymbol : ∀ t, (c, t) ∉ symbols) :
      Faulty [c] (.invalidCharacter c)

end Piece

/-- The text falls into blanks and longest pieces that stand for the tokens. -/
inductive Scan : Text → List Token → Prop where
  | nil : Scan [] []
  | blank {c : Char} {rest : Text} {tokens : List Token} (hBlank : Text.isBlank c = true)
      (hRest : Scan rest tokens) : Scan (c :: rest) tokens
  | piece {piece rest : Text} {t : Token} {tokens : List Token}
      (hLongest : Piece.Longest piece rest) (hMeans : Piece.Means piece t)
      (hRest : Scan rest tokens) : Scan (piece ++ rest) (t :: tokens)

/-! ## The scan's own tables -/

theorem tokenOfSymbol?_eq_some_iff {c : Char} {t : Token} :
    Lexeme.tokenOfSymbol? c = some t ↔ (c, t) ∈ symbols := by
  constructor
  · intro h
    unfold Lexeme.tokenOfSymbol? at h
    split at h <;> cases h <;> simp [symbols]
  · intro h
    have hAll : ∀ entry ∈ symbols, Lexeme.tokenOfSymbol? entry.1 = some entry.2 := by decide
    exact hAll (c, t) h

theorem tokenOfWord?_eq_some_iff {word : Text} {t : Token} :
    Lexeme.tokenOfWord? word = some t ↔ (word, t) ∈ words := by
  constructor
  · intro h
    unfold Lexeme.tokenOfWord? at h
    split at h
    next hWord =>
      cases h
      rw [hWord]
      decide
    next =>
      split at h
      next hWord =>
        cases h
        rw [hWord]
        decide
      next =>
        obtain ⟨f, hName, rfl⟩ := Option.map_eq_some_iff.1 h
        rw [Function.ofName?_eq_some_iff.1 hName]
        cases f <;> decide
  · intro h
    have hAll : ∀ entry ∈ words, Lexeme.tokenOfWord? entry.1 = some entry.2 := by decide
    exact hAll (word, t) h

end DeskCalc
