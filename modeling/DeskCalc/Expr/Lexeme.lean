import DeskCalc.Expr.Error
import DeskCalc.Numeric.Numeral

/-!
# Lexemes

A text falls into blanks and lexemes in one way only: a run of letters or of
digits and points is taken as a whole, two stars in a row are one lexeme, and
every other character stands alone. `Lexeme.ofText` makes that division, which
cannot fail; `Lexeme.token` then says what a lexeme means, or why it means
nothing. The first lexeme without a meaning decides the error of a text.
-/

namespace DeskCalc

/-- A piece of a text that no blank and no neighbour can split. -/
inductive Lexeme where
  /-- Two stars in a row. -/
  | doubleStar
  /-- A longest run of ASCII letters. -/
  | word (letters : Text)
  /-- A longest run of ASCII digits and points. -/
  | numeral (run : Text)
  /-- Any other character. -/
  | symbol (c : Char)
deriving DecidableEq, Repr

namespace Lexeme

/-- The pieces of a text in order, blanks left out. -/
def ofText : Text → List Lexeme
  | [] => []
  | c :: rest =>
      if Text.isBlank c then ofText rest
      else if c.isAlpha then
        .word (c :: rest.takeWhile Char.isAlpha) ::
          ofText (rest.dropWhile Char.isAlpha)
      else if Numeral.isNumeric c then
        .numeral (c :: rest.takeWhile Numeral.isNumeric) ::
          ofText (rest.dropWhile Numeral.isNumeric)
      else if c = '*' ∧ rest.head? = some '*' then
        .doubleStar :: ofText rest.tail
      else .symbol c :: ofText rest
termination_by s => s.length
decreasing_by
  · simp
  · have := (List.dropWhile_sublist Char.isAlpha (l := rest)).length_le
    simp only [List.length_cons]
    omega
  · have := (List.dropWhile_sublist Numeral.isNumeric (l := rest)).length_le
    simp only [List.length_cons]
    omega
  · simp only [List.length_cons, List.length_tail]
    omega
  · simp

/-- What a single character means on its own. -/
def tokenOfSymbol? : Char → Option Token
  | '(' => some .opening
  | ')' => some .closing
  | '+' => some (.binary .add)
  | '-' => some (.binary .sub)
  | '−' => some (.binary .sub)
  | '*' => some (.binary .mul)
  | '×' => some (.binary .mul)
  | '/' => some (.binary .div)
  | '÷' => some (.binary .div)
  | '^' => some (.binary .pow)
  | 'π' => some (.constant .pi)
  | '√' => some (.function .sqrt)
  | _ => none

/-- What a word in lower case means. -/
def tokenOfWord? (word : Text) : Option Token :=
  if word = ['p', 'i'] then some (.constant .pi)
  else if word = ['e'] then some (.constant .e)
  else (Function.ofName? word).map .function

/-- The token that a lexeme stands for. Words are read in any mixture of cases
and reported in lower case. -/
def token : Lexeme → Except CalcError Token
  | .doubleStar => .ok (.binary .pow)
  | .word letters =>
      let word := letters.map Char.toLower
      match tokenOfWord? word with
      | some t => .ok t
      | none => .error (.unknownWord word)
  | .numeral run =>
      match Numeral.read? run with
      | some d => .ok (.number d.toBinary64)
      | none => .error (.invalidNumeral run)
  | .symbol c =>
      match tokenOfSymbol? c with
      | some t => .ok t
      | none => .error (.invalidCharacter c)

end Lexeme

/-- The tokens of a text, or the error of its first lexeme without a meaning. -/
def tokenize (s : Text) : Except CalcError (List Token) :=
  (Lexeme.ofText s).mapM Lexeme.token

end DeskCalc
