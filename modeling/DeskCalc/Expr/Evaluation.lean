import DeskCalc.Expr.Lexeme
import DeskCalc.Expr.Ordering
import DeskCalc.Numeric.Elementary

/-!
# The value of an expression

An ordered expression is evaluated on a stack of numbers. Every number that
enters the stack, literal or computed, has to be finite: an overflow is an
error where it happens and never turns into a plausible result further on.

`evaluate` takes a text through all stages; `analyse` is the part before the
first number is computed.
-/

namespace DeskCalc

/-- The value of a function, unless the argument lies outside its domain. -/
def Function.apply (f : Function) (x : Binary64) : Except CalcError Binary64 :=
  match f with
  | .sin => .ok x.sin
  | .cos => .ok x.cos
  | .tan => .ok x.tan
  | .sqrt => if x.isBelowZero then .error (.outOfDomain .sqrt) else .ok x.sqrt
  | .log => if x.isAtMostZero then .error (.outOfDomain .log) else .ok x.log10
  | .ln => if x.isAtMostZero then .error (.outOfDomain .ln) else .ok x.ln
  | .abs => .ok x.abs

/-- The value of an operator, unless it divides by zero. -/
def BinaryOp.apply (op : BinaryOp) (x y : Binary64) : Except CalcError Binary64 :=
  match op with
  | .add => .ok (x + y)
  | .sub => .ok (x - y)
  | .mul => .ok (x * y)
  | .div => if y.isZero then .error .divisionByZero else .ok (x / y)
  | .pow => .ok (x.pow y)

namespace Rpn

/-- A finite number enters the stack. -/
def push (x : Binary64) (stack : List Binary64) : Except CalcError (List Binary64) :=
  if x.isFinite then .ok (x :: stack) else .error .notFinite

/-- Take one token of an ordered expression; the top of the stack comes
first. -/
def step (stack : List Binary64) (t : Token) : Except CalcError (List Binary64) :=
  match t, stack with
  | .number x, stack => push x stack
  | .constant c, stack => push c.value stack
  | .negate, x :: stack => push (-x) stack
  | .function f, x :: stack => do push (← f.apply x) stack
  | .binary op, y :: x :: stack => do push (← op.apply x y) stack
  | .opening, _ => .error (.grammar .parenthesisInRpn)
  | .closing, _ => .error (.grammar .parenthesisInRpn)
  | _, _ => .error (.grammar .missingOperand)

/-- The value of an ordered expression. -/
def evaluate (tokens : List Token) : Except CalcError Binary64 := do
  match ← tokens.foldlM step [] with
  | [x] => .ok x
  | _ => .error (.grammar .notOneValue)

end Rpn

/-- The ordered form of a text. -/
def analyse (s : Text) : Except CalcError (List Token) := do
  toRpn (← tokenize s)

/-- The value of a text, blanks around it left out. -/
def evaluate (s : Text) : Except CalcError Binary64 := do
  Rpn.evaluate (← analyse s.trim)

end DeskCalc
