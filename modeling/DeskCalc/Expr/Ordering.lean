import DeskCalc.Expr.Error

/-!
# Putting an expression in evaluation order

An ordered expression, in reverse Polish notation, lists every operator after
its operands and needs no parentheses. The order is found in one pass from left
to right. A `Yard` holds what has been written so far, the operators that still
wait for their right operand, and whether the last token completed an operand.

Operators bind, from the weakest to the strongest: `+ -`, `* /`, `^`, the
negating sign. Those of one strength group to the left, `^` groups to the
right. A sign in front of an operand negates if it is `-` and leaves no trace
if it is `+`.
-/

namespace DeskCalc

/-- What can wait for its right operand or its closing parenthesis. -/
inductive Pending where
  | group
  | function (f : Function)
  | negate
  | binary (op : BinaryOp)
deriving DecidableEq, Repr

/-- How strongly an operator binds its operands. -/
def BinaryOp.strength : BinaryOp → Nat
  | .add => 1
  | .sub => 1
  | .mul => 2
  | .div => 2
  | .pow => 3

/-- Repeated use groups to the right. -/
def BinaryOp.groupsRight : BinaryOp → Bool
  | .pow => true
  | _ => false

namespace Pending

/-- How strongly a waiting entry binds. An open group binds nothing. -/
def strength : Pending → Nat
  | .group => 0
  | .binary op => op.strength
  | .negate => 4
  | .function _ => 5

/-- The token that a waiting entry is written as. -/
def token : Pending → Token
  | .group => .opening
  | .function f => .function f
  | .negate => .negate
  | .binary op => .binary op

/-- A waiting entry has to be written before `op` may wait: it has its right
operand, which `op` does not take away. -/
def precedes (p : Pending) (op : BinaryOp) : Bool :=
  match p with
  | .group => false
  | p => if op.groupsRight then op.strength < p.strength else op.strength ≤ p.strength

end Pending

/-- The state of the pass. -/
structure Yard where
  /-- What has been written, the latest token first. -/
  written : List Token
  /-- What waits, the latest entry first. -/
  waiting : List Pending
  /-- The last token completed an operand. -/
  afterOperand : Bool
deriving DecidableEq, Repr

namespace Yard

/-- Nothing read yet. -/
def start : Yard := ⟨[], [], false⟩

/-- Write the waiting entries that precede `op`. -/
def release (op : BinaryOp) (written : List Token) :
    List Pending → List Token × List Pending
  | [] => (written, [])
  | p :: waiting =>
      if p.precedes op then release op (p.token :: written) waiting
      else (written, p :: waiting)

/-- Write the waiting entries of the innermost open group and drop the group;
`none` if no group is open. -/
def closeGroup (written : List Token) :
    List Pending → Option (List Token × List Pending)
  | [] => none
  | .group :: waiting => some (written, waiting)
  | p :: waiting => closeGroup (p.token :: written) waiting

/-- A function whose argument is complete is written. -/
def applyFunction : List Token × List Pending → List Token × List Pending
  | (written, .function f :: waiting) => (.function f :: written, waiting)
  | other => other

/-- Fail with a grammar fault. -/
def fail (fault : GrammarFault) : Except CalcError Yard := .error (.grammar fault)

/-- Take one operand. -/
def takeOperand (y : Yard) (t : Token) : Except CalcError Yard :=
  if y.afterOperand then fail .adjacentOperands
  else .ok ⟨t :: y.written, y.waiting, true⟩

/-- Take one binary operator that has a left operand. -/
def takeBinary (y : Yard) (op : BinaryOp) : Yard :=
  let (written, waiting) := release op y.written y.waiting
  ⟨written, .binary op :: waiting, false⟩

/-- Let an entry wait in front of the operand that is due. -/
def wait (y : Yard) (p : Pending) : Yard := { y with waiting := p :: y.waiting }

/-- Take the token `t`, the token after it being `next`. -/
def step (y : Yard) (t : Token) (next : Option Token) : Except CalcError Yard :=
  match t with
  | .number x => y.takeOperand (.number x)
  | .constant c => y.takeOperand (.constant c)
  | .function f =>
      if y.afterOperand then fail .operandBeforeFunction
      else if next = some .opening then .ok (y.wait (.function f))
      else fail .functionWithoutArgument
  | .opening =>
      if y.afterOperand then fail .operandBeforeOpening
      else .ok (y.wait .group)
  | .closing =>
      if y.afterOperand then
        match closeGroup y.written y.waiting with
        | some closed =>
            let (written, waiting) := applyFunction closed
            .ok ⟨written, waiting, true⟩
        | none => .error .unbalancedParentheses
      else fail .emptyGroup
  | .negate =>
      if y.afterOperand then fail .negationAfterOperand
      else .ok (y.wait .negate)
  | .binary op =>
      if y.afterOperand then .ok (y.takeBinary op)
      else
        match op with
        | .sub => .ok (y.wait .negate)
        | .add => .ok y
        | _ => fail .missingLeftOperand

/-- Take all tokens in order. -/
def run (y : Yard) : List Token → Except CalcError Yard
  | [] => .ok y
  | t :: rest =>
      match y.step t rest.head? with
      | .ok y => run y rest
      | .error e => .error e

/-- Write what still waits once all tokens have been taken. -/
def finish (y : Yard) : Except CalcError (List Token) :=
  if y.afterOperand then
    if y.waiting.contains .group then .error .unbalancedParentheses
    else .ok (y.written.reverse ++ y.waiting.map Pending.token)
  else .error (.grammar .incomplete)

end Yard

/-- The ordered form of an expression. -/
def toRpn (tokens : List Token) : Except CalcError (List Token) :=
  if tokens.isEmpty then .error .emptyInput
  else do (← Yard.start.run tokens).finish

end DeskCalc
