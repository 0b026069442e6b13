import DeskCalc.Numeric.Shortest

/-!
# The vocabulary of expressions

A token is one word of an expression: a number, a named constant, a function,
one of the five binary operators, the sign that negates, or a parenthesis.
The subtraction sign and the negation are different tokens; a scan only
produces the first, and ordering an expression decides which one is meant.

`Token.writeAll` is the form in which a list of tokens is logged.
-/

namespace DeskCalc

/-- The operators that stand between two operands. -/
inductive BinaryOp where
  | add | sub | mul | div | pow
deriving DecidableEq, Repr

/-- The named numbers. -/
inductive Constant where
  | pi | e
deriving DecidableEq, Repr

/-- The functions of one argument. -/
inductive Function where
  | sin | cos | tan | sqrt | log | ln | abs
deriving DecidableEq, Repr

/-- One word of an expression. -/
inductive Token where
  | number (x : Binary64)
  | constant (c : Constant)
  | function (f : Function)
  | binary (op : BinaryOp)
  | negate
  | opening
  | closing
deriving DecidableEq, Repr

namespace Constant

/-- The double-precision number nearest to the constant. -/
def value : Constant → Binary64
  | .pi => Decimal.toBinary64 ⟨3141592653589793, 15⟩
  | .e => Decimal.toBinary64 ⟨2718281828459045, 15⟩

/-- The symbol that a constant is logged as. -/
def symbol : Constant → Text
  | .pi => ['π']
  | .e => ['e']

end Constant

namespace Function

/-- All functions. -/
def all : List Function := [.sin, .cos, .tan, .sqrt, .log, .ln, .abs]

/-- The word that names a function. -/
def name : Function → Text
  | .sin => ['s', 'i', 'n']
  | .cos => ['c', 'o', 's']
  | .tan => ['t', 'a', 'n']
  | .sqrt => ['s', 'q', 'r', 't']
  | .log => ['l', 'o', 'g']
  | .ln => ['l', 'n']
  | .abs => ['a', 'b', 's']

/-- The function that a word names. -/
def ofName? (word : Text) : Option Function := all.find? fun f => f.name == word

/-- Every function is found under its own name. -/
@[simp] theorem ofName?_name (f : Function) : ofName? f.name = some f := by
  cases f <;> decide

theorem ofName?_eq_some_iff {word : Text} {f : Function} :
    ofName? word = some f ↔ word = f.name := by
  constructor
  · intro h
    have := List.find?_some h
    exact (beq_iff_eq.1 this).symm
  · rintro rfl
    exact ofName?_name f

end Function

/-- The sign of an operator in a log. -/
def BinaryOp.sign : BinaryOp → Char
  | .add => '+'
  | .sub => '-'
  | .mul => '*'
  | .div => '/'
  | .pow => '^'

namespace Token

/-- The word that stands for a token in a log. -/
def write : Token → Text
  | .number x => x.text
  | .constant c => c.symbol
  | .function f => f.name
  | .binary op => [op.sign]
  | .negate => ['n', 'e', 'g']
  | .opening => ['(']
  | .closing => [')']

/-- The words of a list of tokens, one blank between neighbours. -/
def writeAll (tokens : List Token) : Text :=
  [' '].intercalate (tokens.map write)

end Token

end DeskCalc
