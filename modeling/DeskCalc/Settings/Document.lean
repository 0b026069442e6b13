import DeskCalc.Text.Digits
import DeskCalc.Text.Split

/-!
# Documents of flat assignments

A settings document is a TOML document whose values are integers and booleans
under top-level keys. Each line is blank, a comment, or one assignment
`key = value`, with a comment behind it or not. Every other construct of the
format, such as a table, a string value or an array, is refused: no setting
takes such a value.

A key is bare or quoted, and two writings of one key are the same key. Keys may
come in any order but each only once.
-/

namespace DeskCalc

/-- The values that a setting may have. -/
inductive Scalar where
  | boolean (b : Bool)
  | integer (n : Int)
deriving DecidableEq, Repr

namespace Document

/-- The blanks inside a line: the space and the tabulator. -/
def isSpace (c : Char) : Bool := c == ' ' || c == '\t'

/-- The rest of a line after its leading spaces. -/
def skipSpaces (s : Text) : Text := s.dropWhile isSpace

/-- The characters that stand in no line: control characters other than the
tabulator. -/
def isForbidden (c : Char) : Bool := (c.toNat < 0x20 && c != '\t') || c.toNat == 0x7F

/-- The line holds nothing more than a comment. -/
def isRemark : Text → Bool
  | [] => true
  | '#' :: comment => comment.all fun c => !isForbidden c
  | _ => false

/-! ## Keys -/

/-- The characters of a bare key. -/
def isBare (c : Char) : Bool := c.isAlphanum || c == '_' || c == '-'

/-- The value of a digit in a base up to sixteen. -/
def digit? (base : Nat) (c : Char) : Option Nat :=
  let value :=
    if c.isDigit then c.toNat - '0'.toNat
    else if 'a' ≤ c ∧ c ≤ 'f' then c.toNat - 'a'.toNat + 10
    else if 'A' ≤ c ∧ c ≤ 'F' then c.toNat - 'A'.toNat + 10
    else base
  if value < base then some value else none

/-- The number named by a run of digits of a base. -/
def digits? (base : Nat) (s : Text) : Option Nat := do
  return (← s.mapM (digit? base)).foldl (fun n d => base * n + d) 0

/-- The character with the hexadecimal code `code`, if there is one. -/
def coded? (code : Text) : Option Char := do
  let n ← digits? 16 code
  if n.isValidChar then some (Char.ofNat n) else none

/-- The character that one letter after a backslash stands for. -/
def escaped? : Char → Option Char
  | 'b' => some '\x08'
  | 't' => some '\t'
  | 'n' => some '\n'
  | 'f' => some '\x0c'
  | 'r' => some '\r'
  | 'e' => some '\x1b'
  | '"' => some '"'
  | '\\' => some '\\'
  | _ => none

/-- Put a character in front of what was read. -/
def consRead (c : Char) (r : Text × Text) : Text × Text := (c :: r.1, r.2)

/-- A key in double quotes, from behind its opening quote, and what follows its
closing one. Backslashes escape. -/
def quoted? : Text → Option (Text × Text)
  | [] => none
  | '"' :: rest => some ([], rest)
  | '\\' :: 'x' :: a :: b :: rest => do
      return consRead (← coded? [a, b]) (← quoted? rest)
  | '\\' :: 'u' :: a :: b :: c :: d :: rest => do
      return consRead (← coded? [a, b, c, d]) (← quoted? rest)
  | '\\' :: 'U' :: a :: b :: c :: d :: e :: f :: g :: h :: rest => do
      return consRead (← coded? [a, b, c, d, e, f, g, h]) (← quoted? rest)
  | '\\' :: c :: rest => do return consRead (← escaped? c) (← quoted? rest)
  | c :: rest => if isForbidden c then none else (quoted? rest).map (consRead c)

/-- A key in single quotes, from behind its opening quote, and what follows its
closing one. Nothing escapes. -/
def literal? : Text → Option (Text × Text)
  | [] => none
  | c :: rest =>
      if c = '\'' then some ([], rest)
      else if isForbidden c then none
      else (literal? rest).map (consRead c)

/-- The key that a line begins with, and what follows it. -/
def key? : Text → Option (Text × Text)
  | '"' :: rest => quoted? rest
  | '\'' :: rest => literal? rest
  | s =>
      let bare := s.takeWhile isBare
      if bare.isEmpty then none else some (bare, s.dropWhile isBare)

/-! ## Values -/

/-- The number named by digits of a base with single underscores between
digits. -/
def grouped? (base : Nat) (s : Text) : Option Nat :=
  let groups := Text.splitOn '_' s
  if groups.any List.isEmpty then none else digits? base groups.flatten

/-- The integer that a text names. Without a prefix it is decimal, may have a
sign and has no superfluous zero in front. -/
def integer? : Text → Option Int
  | '0' :: 'x' :: digits => (grouped? 16 digits).map Int.ofNat
  | '0' :: 'o' :: digits => (grouped? 8 digits).map Int.ofNat
  | '0' :: 'b' :: digits => (grouped? 2 digits).map Int.ofNat
  | s =>
      let (negative, digits) := Digits.splitSign s
      if digits.head? = some '0' ∧ digits ≠ ['0'] then none
      else (grouped? 10 digits).map fun n => if negative then -(n : Int) else (n : Int)

/-- The value that a text names. -/
def scalar? (s : Text) : Option Scalar :=
  if s = ['t', 'r', 'u', 'e'] then some (.boolean true)
  else if s = ['f', 'a', 'l', 's', 'e'] then some (.boolean false)
  else (integer? s).map .integer

/-! ## Lines -/

/-- A value ends at a space or a comment. -/
def isValueChar (c : Char) : Bool := !isSpace c && c != '#'

/-- What a line assigns, the spaces in front of it left out. -/
def assignment? (s : Text) : Option (Text × Scalar) := do
  let (key, rest) ← key? s
  match skipSpaces rest with
  | '=' :: rest =>
      let valued := skipSpaces rest
      let value ← scalar? (valued.takeWhile isValueChar)
      if isRemark (skipSpaces (valued.dropWhile isValueChar)) then some (key, value)
      else none
  | _ => none

/-- What a line assigns, which may be nothing. -/
def line? (s : Text) : Option (List (Text × Scalar)) :=
  let content := skipSpaces s
  if isRemark content then some []
  else (assignment? content).map fun entry => [entry]

/-- A mark of the byte order in front of the text says nothing. -/
def skipByteOrderMark : Text → Text
  | '\uFEFF' :: rest => rest
  | s => s

/-- All assignments of a document in order, if it is one. -/
def read? (s : Text) : Option (List (Text × Scalar)) := do
  let lines ← (Text.splitLines (skipByteOrderMark s)).mapM line?
  let entries := lines.flatten
  if (entries.map Prod.fst).Nodup then some entries else none

end Document

end DeskCalc
