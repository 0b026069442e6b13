import DeskCalc.Expr.Ordering

/-!
# The balance of an expression

Whether the ordering pass accepts a list of tokens, and with which error it
stops otherwise, hangs on two things only: how many groups are open and whether
the last token completed an operand. A `Balance` holds just these, and
`Balance.run` is a pass of its own that orders nothing.

## Main results

* `toRpn_map_unit` — the ordering pass and the balance give the same verdict.
-/

namespace DeskCalc

/-- How far an expression has been read, its operators forgotten. -/
structure Balance where
  /-- How many groups are open. -/
  depth : Nat
  /-- The last token completed an operand. -/
  afterOperand : Bool
deriving DecidableEq, Repr

namespace Balance

/-- Nothing read yet. -/
def start : Balance := ⟨0, false⟩

/-- Fail with a grammar fault. -/
def fail (fault : GrammarFault) : Except CalcError Balance := .error (.grammar fault)

/-- Take the token `t`, the token after it being `next`. -/
def step (b : Balance) (t : Token) (next : Option Token) : Except CalcError Balance :=
  match t with
  | .number _ | .constant _ =>
      if b.afterOperand then fail .adjacentOperands else .ok ⟨b.depth, true⟩
  | .function _ =>
      if b.afterOperand then fail .operandBeforeFunction
      else if next = some .opening then .ok b
      else fail .functionWithoutArgument
  | .opening =>
      if b.afterOperand then fail .operandBeforeOpening else .ok ⟨b.depth + 1, false⟩
  | .closing =>
      if b.afterOperand = false then fail .emptyGroup
      else if b.depth = 0 then .error .unbalancedParentheses
      else .ok ⟨b.depth - 1, true⟩
  | .negate =>
      if b.afterOperand then fail .negationAfterOperand else .ok b
  | .binary op =>
      if b.afterOperand then .ok ⟨b.depth, false⟩
      else if op = .add ∨ op = .sub then .ok b
      else fail .missingLeftOperand

/-- Take all tokens in order. -/
def run (b : Balance) : List Token → Except CalcError Balance
  | [] => .ok b
  | t :: rest =>
      match b.step t rest.head? with
      | .ok b => run b rest
      | .error e => .error e

/-- The verdict once all tokens have been taken. -/
def finish (b : Balance) : Except CalcError Unit :=
  if b.afterOperand = false then .error (.grammar .incomplete)
  else if b.depth = 0 then .ok ()
  else .error .unbalancedParentheses

/-- The verdict on a list of tokens. -/
def verdict (tokens : List Token) : Except CalcError Unit :=
  if tokens.isEmpty then .error .emptyInput
  else do (← start.run tokens).finish

end Balance

namespace Yard

/-- What the verdict depends on. -/
def balance (y : Yard) : Balance := ⟨y.waiting.count .group, y.afterOperand⟩

/-- Writing the entries that precede an operator opens and closes no group. -/
theorem count_group_release (op : BinaryOp) (written : List Token)
    (waiting : List Pending) :
    (release op written waiting).2.count .group = waiting.count .group := by
  fun_induction release op written waiting with
  | case1 written => rfl
  | case2 written p waiting h ih =>
      have hGroup : p ≠ .group := by
        rintro rfl
        cases h
      rw [ih, List.count_cons_of_ne hGroup]
  | case3 written p waiting h => rfl

/-- A group can be closed exactly when one is open, and one fewer is open
then. -/
theorem closeGroup_count (written : List Token) (waiting : List Pending) :
    match closeGroup written waiting with
    | none => waiting.count .group = 0
    | some closed => waiting.count .group = closed.2.count .group + 1 := by
  fun_induction closeGroup written waiting with
  | case1 written => rfl
  | case2 written waiting => simp
  | case3 written p waiting hGroup ih =>
      have hCount : (p :: waiting).count .group = waiting.count .group :=
        List.count_cons_of_ne hGroup
      rw [hCount]
      exact ih

theorem count_group_applyFunction (closed : List Token × List Pending) :
    (applyFunction closed).2.count .group = closed.2.count .group := by
  unfold applyFunction
  split
  · simp
  · rfl

/-- A closing parenthesis changes the balance alike in both passes. -/
theorem balance_step_closing (y : Yard) (next : Option Token) :
    (y.step .closing next).map balance = y.balance.step .closing next := by
  cases hAfter : y.afterOperand with
  | false => simp [step, Balance.step, balance, hAfter, fail, Balance.fail, Except.map]
  | true =>
      have hClose := closeGroup_count y.written y.waiting
      cases hClosed : closeGroup y.written y.waiting with
      | none =>
          rw [hClosed] at hClose
          simp [step, Balance.step, balance, hAfter, hClosed, hClose, Except.map]
      | some closed =>
          rw [hClosed] at hClose
          have hApply := count_group_applyFunction closed
          simp [step, Balance.step, balance, hAfter, hClosed, hClose, hApply, Except.map]

/-- **One token changes the balance alike in both passes**, or stops both with
the same error. -/
theorem balance_step (y : Yard) (t : Token) (next : Option Token) :
    (y.step t next).map balance = y.balance.step t next := by
  cases t with
  | closing => exact balance_step_closing y next
  | binary op =>
      cases hAfter : y.afterOperand with
      | false =>
          cases op <;>
            simp [step, Balance.step, balance, hAfter, fail, Balance.fail, wait, Except.map]
      | true =>
          have hRelease := count_group_release op y.written y.waiting
          simp [step, Balance.step, balance, hAfter, takeBinary, hRelease, Except.map]
  | function f =>
      cases hAfter : y.afterOperand with
      | false =>
          by_cases hNext : next = some .opening <;>
            simp [step, Balance.step, balance, hAfter, hNext, fail, Balance.fail, wait,
              Except.map]
      | true => simp [step, Balance.step, balance, hAfter, fail, Balance.fail, Except.map]
  | _ =>
      cases hAfter : y.afterOperand <;>
        simp [step, Balance.step, balance, hAfter, takeOperand, fail, Balance.fail, wait,
          Except.map]

/-- A whole run changes the balance alike in both passes. -/
theorem balance_run (y : Yard) (tokens : List Token) :
    (y.run tokens).map balance = y.balance.run tokens := by
  induction tokens generalizing y with
  | nil => rfl
  | cons t rest ih =>
      have hStep := balance_step y t rest.head?
      rw [run, Balance.run, ← hStep]
      cases y.step t rest.head? with
      | error e => rfl
      | ok next => exact ih next

/-- The end of the tokens is judged alike in both passes. -/
theorem balance_finish (y : Yard) : y.finish.map (fun _ => ()) = y.balance.finish := by
  cases hAfter : y.afterOperand with
  | false => simp [finish, Balance.finish, balance, hAfter, Except.map]
  | true =>
      by_cases hOpen : Pending.group ∈ y.waiting
      · have hCount : y.waiting.count .group ≠ 0 := by
          simpa [List.count_eq_zero] using hOpen
        simp [finish, Balance.finish, balance, hAfter, hOpen, hCount, Except.map]
      · have hCount : y.waiting.count .group = 0 := List.count_eq_zero.2 hOpen
        simp [finish, Balance.finish, balance, hAfter, hOpen, hCount, Except.map]

end Yard

/-- **The ordering pass gives the verdict of the balance.** -/
theorem toRpn_map_unit (tokens : List Token) :
    (toRpn tokens).map (fun _ => ()) = Balance.verdict tokens := by
  have hRun := Yard.balance_run Yard.start tokens
  have hStart : Yard.start.balance = Balance.start := rfl
  rw [hStart] at hRun
  unfold toRpn Balance.verdict
  rw [← hRun]
  cases tokens.isEmpty with
  | true => rfl
  | false =>
      cases Yard.start.run tokens with
      | error e => rfl
      | ok y => exact Yard.balance_finish y

end DeskCalc
