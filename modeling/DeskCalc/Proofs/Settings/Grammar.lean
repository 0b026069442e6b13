import Mathlib.Data.Nat.Digits.Defs
import DeskCalc.Proofs.Text.Split
import DeskCalc.Settings.Document

/-!
# The grammar of TOML

What a TOML document is, said without a reader: its lines, the keys in their
three ways of writing, dotted keys, the headers of tables and of arrays of tables,
integers and booleans. No setting takes a value of another type, a string, a
float, a date, an array or an inline table, so their texts are a parameter. All
that is asked of them is that they do not begin like an integer or a boolean;
they may go over several lines.

A document is read as the list of its statements. `topLevel` lists the keys that
they give to the outermost table. A key with a dot behind it and the key of a
header hold a table, whatever is in it, and so does a key that is given twice by
them; so every value there that is no integer and no boolean is `other`.
-/

namespace DeskCalc.Toml

/-! ## Characters -/

/-- The blanks inside a line. -/
def IsBlank (c : Char) : Prop := c = ' ' ∨ c = '\t'

/-- A run of blanks, possibly empty. -/
def Blanks (s : Text) : Prop := ∀ c ∈ s, IsBlank c

/-- The characters of comments and of quoted keys: no control characters other
than the tabulator. -/
def IsPrintable (c : Char) : Prop := c = '\t' ∨ (0x20 ≤ c.toNat ∧ c.toNat ≠ 0x7F)

/-- The characters of bare keys. -/
def IsBare (c : Char) : Prop := c.isAlphanum = true ∨ c = '_' ∨ c = '-'

/-- What a value ends at. -/
def Ends (c : Char) : Prop := IsBlank c ∨ c = '#' ∨ c = '\n' ∨ c = '\r'

instance : DecidablePred IsBlank := fun c => inferInstanceAs (Decidable (c = ' ' ∨ c = '\t'))

instance : DecidablePred IsPrintable := fun c =>
  inferInstanceAs (Decidable (c = '\t' ∨ (0x20 ≤ c.toNat ∧ c.toNat ≠ 0x7F)))

instance : DecidablePred IsBare := fun c =>
  inferInstanceAs (Decidable (c.isAlphanum = true ∨ c = '_' ∨ c = '-'))

instance : DecidablePred Ends := fun c =>
  inferInstanceAs (Decidable (IsBlank c ∨ c = '#' ∨ c = '\n' ∨ c = '\r'))

/-- A comment, which may be missing. -/
inductive Comment : Text → Prop where
  | absent : Comment []
  | present {s : Text} (h : ∀ c ∈ s, IsPrintable c) : Comment ('#' :: s)

/-! ## Numbers -/

/-- The character writes the digit of a base; a letter is taken in either case. -/
def IsDigit (base : Nat) (c : Char) (d : Nat) : Prop :=
  d < base ∧ (c = d.digitChar ∨ c = d.digitChar.toUpper)

/-- The digits, the most significant first, name the number. -/
def Number (base : Nat) (s : Text) (n : Nat) : Prop :=
  ∃ digits, List.Forall₂ (IsDigit base) s digits ∧ n = Nat.ofDigits base digits.reverse

/-- Digits that name the number, with single underscores between digits. -/
def Grouped (base : Nat) (s : Text) (n : Nat) : Prop :=
  ∃ groups : List Text, groups ≠ [] ∧ (∀ group ∈ groups, group ≠ []) ∧
    s = ['_'].intercalate groups ∧ Number base groups.flatten n

/-- A decimal number without a superfluous zero in front. -/
structure Unsigned (s : Text) (n : Nat) : Prop where
  grouped : Grouped 10 s n
  leading : s.head? = some '0' → s = ['0']

/-- An integer. One with a prefix for its base has no sign. -/
inductive Integer : Text → Int → Prop where
  | hexadecimal {s : Text} {n : Nat} (h : Grouped 16 s n) : Integer ('0' :: 'x' :: s) n
  | octal {s : Text} {n : Nat} (h : Grouped 8 s n) : Integer ('0' :: 'o' :: s) n
  | binary {s : Text} {n : Nat} (h : Grouped 2 s n) : Integer ('0' :: 'b' :: s) n
  | unsigned {s : Text} {n : Nat} (h : Unsigned s n) : Integer s n
  | positive {s : Text} {n : Nat} (h : Unsigned s n) : Integer ('+' :: s) n
  | negative {s : Text} {n : Nat} (h : Unsigned s n) : Integer ('-' :: s) (-n)

/-! ## Keys -/

/-- The letters that stand for one character behind a backslash. -/
def shortEscapes : List (Char × Char) :=
  [('b', '\x08'), ('t', '\t'), ('n', '\n'), ('f', '\x0c'), ('r', '\r'), ('e', '\x1b'),
    ('"', '"'), ('\\', '\\')]

/-- The letters that a code follows behind a backslash, with its length. -/
def codeLengths : List (Char × Nat) := [('x', 2), ('u', 4), ('U', 8)]

/-- What follows a backslash and the character that it stands for. A code names
it in hexadecimal digits; there is no character for some codes. -/
inductive Escape : Text → Char → Prop where
  | short {letter c : Char} (h : (letter, c) ∈ shortEscapes) : Escape [letter] c
  | code {letter c : Char} {s : Text} (h : (letter, s.length) ∈ codeLengths)
      (hCode : Number 16 s c.toNat) : Escape (letter :: s) c

/-- What stands between double quotes and the key that it names. -/
inductive Quoted : Text → Text → Prop where
  | nil : Quoted [] []
  | plain {c : Char} {s key : Text} (hPrintable : IsPrintable c) (hQuote : c ≠ '"')
      (hEscape : c ≠ '\\') (h : Quoted s key) : Quoted (c :: s) (c :: key)
  | escape {e s key : Text} {c : Char} (hEscape : Escape e c) (h : Quoted s key) :
      Quoted ('\\' :: (e ++ s)) (c :: key)

/-- A key without dots. -/
inductive Key : Text → Text → Prop where
  | bare {s : Text} (hNonempty : s ≠ []) (h : ∀ c ∈ s, IsBare c) : Key s s
  | quoted {s key : Text} (h : Quoted s key) : Key ('"' :: (s ++ ['"'])) key
  | literal {s : Text} (h : ∀ c ∈ s, IsPrintable c ∧ c ≠ '\'') : Key ('\'' :: (s ++ ['\''])) s

/-- A key with the keys behind its dots. -/
inductive Path : Text → Text → List Text → Prop where
  | key {s key : Text} (h : Key s key) : Path s key []
  | dotted {s a b path key next : Text} {inner : List Text} (hKey : Key s key) (ha : Blanks a)
      (hb : Blanks b) (h : Path path next inner) :
      Path (s ++ (a ++ '.' :: (b ++ path))) key (next :: inner)

/-! ## Statements -/

/-- A value, as far as a setting may have it. -/
inductive Value where
  | scalar (value : Scalar)
  | other
deriving DecidableEq, Repr

/-- What a line says, its layout left out. -/
inductive Statement where
  /-- Nothing. -/
  | blank
  /-- A key has a value, or a key inside the table that it holds has one. -/
  | assigns (key : Text) (inner : List Text) (value : Value)
  /-- What follows is about a table, or about the next table of an array. -/
  | opens (key : Text) (inner : List Text)
deriving DecidableEq, Repr

/-- An integer or a boolean. -/
inductive IsScalar : Text → Scalar → Prop where
  | yes : IsScalar ['t', 'r', 'u', 'e'] (.boolean true)
  | no : IsScalar ['f', 'a', 'l', 's', 'e'] (.boolean false)
  | integer {s : Text} {n : Int} (h : Integer s n) : IsScalar s (.integer n)

/-- What is asked of the texts of the values of other types. -/
structure Apart (other : Text → Prop) : Prop where
  /-- They do not begin with what a value ends at. -/
  visible : ∀ s, other s → ∃ c rest, s = c :: rest ∧ ¬ Ends c
  /-- Nor with an integer or a boolean that ends there. -/
  distinct : ∀ s value rest, IsScalar s value → other (s ++ rest) →
    ∃ c more, rest = c :: more ∧ ¬ Ends c

section Document

variable (other : Text → Prop)

/-- A value of any type. -/
inductive IsValue : Text → Value → Prop where
  | scalar {s : Text} {value : Scalar} (h : IsScalar s value) : IsValue s (.scalar value)
  | other {s : Text} (h : other s) : IsValue s .other

/-- What stands on a line between the blanks at its ends, the comment left out. -/
inductive Content : Text → Statement → Prop where
  | blank : Content [] .blank
  | assigns {path a b s key : Text} {inner : List Text} {value : Value}
      (hPath : Path path key inner) (ha : Blanks a) (hb : Blanks b)
      (hValue : IsValue other s value) :
      Content (path ++ (a ++ '=' :: (b ++ s))) (.assigns key inner value)
  | table {a path b key : Text} {inner : List Text} (ha : Blanks a) (hPath : Path path key inner)
      (hb : Blanks b) : Content ('[' :: (a ++ (path ++ (b ++ [']'])))) (.opens key inner)
  | tableArray {a path b key : Text} {inner : List Text} (ha : Blanks a)
      (hPath : Path path key inner) (hb : Blanks b) :
      Content ('[' :: '[' :: (a ++ (path ++ (b ++ [']', ']'])))) (.opens key inner)

/-- A statement with the blanks and the comment around it. -/
inductive Line : Text → Statement → Prop where
  | mk {a s b comment : Text} {statement : Statement} (ha : Blanks a)
      (hContent : Content other s statement) (hb : Blanks b) (hComment : Comment comment) :
      Line (a ++ (s ++ (b ++ comment))) statement

/-- Lines with an end between any two. -/
inductive Lines : Text → List Statement → Prop where
  | last {s : Text} {statement : Statement} (h : Line other s statement) : Lines s [statement]
  | next {s ending rest : Text} {statement : Statement} {statements : List Statement}
      (hLine : Line other s statement) (hEnding : Text.LineEnd ending)
      (h : Lines rest statements) : Lines (s ++ (ending ++ rest)) (statement :: statements)

/-- A document. A mark of the byte order in front of it says nothing. -/
inductive Document : Text → List Statement → Prop where
  | plain {s : Text} {statements : List Statement} (hMark : s.head? ≠ some '\uFEFF')
      (h : Lines other s statements) : Document s statements
  | marked {s : Text} {statements : List Statement} (h : Lines other s statements) :
      Document ('\uFEFF' :: s) statements

end Document

/-! ## The outermost table -/

/-- The keys of the headers. -/
def tables : List Statement → List (Text × Value)
  | [] => []
  | .opens key _ :: rest => (key, .other) :: tables rest
  | _ :: rest => tables rest

/-- The keys of the outermost table with their values. Behind the first header
nothing but another header says more of it. -/
def topLevel : List Statement → List (Text × Value)
  | [] => []
  | .blank :: rest => topLevel rest
  | .assigns key [] value :: rest => (key, value) :: topLevel rest
  | .assigns key (_ :: _) _ :: rest => (key, .other) :: topLevel rest
  | .opens key _ :: rest => (key, .other) :: tables rest

end DeskCalc.Toml
