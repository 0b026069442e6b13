import DeskCalc.Expr.Evaluation
import DeskCalc.Proofs.Expr.Tree
import DeskCalc.Proofs.Numeric.Exact

/-!
# The value of a tree

`ExprTree.value` evaluates a tree by recursion: the left operand, the right
operand, then the node, and the first error met is the error of the tree. Where
a node has no value is said of the exact values of its operands and not of
their encodings.

A listing runs on the stack of numbers as its tree evaluates, whatever lies
below. In the other direction every step that succeeds on numbers succeeds on
trees too, so that only the listing of a tree can end in a value.

## Main results

* `foldlM_step_postorder` — a listing pushes the value of its tree.
* `evaluate_postorder_and_error` — listings have the value of their tree, and
  all other lists of tokens are errors.
-/

namespace DeskCalc

/-- The exact values for which a function has a value. -/
def Function.Domain : Function → ℚ → Prop
  | .sqrt, value => 0 ≤ value
  | .log, value => 0 < value
  | .ln, value => 0 < value
  | _, _ => True

instance (f : Function) (value : ℚ) : Decidable (f.Domain value) :=
  match f with
  | .sqrt => inferInstanceAs (Decidable (0 ≤ value))
  | .log | .ln => inferInstanceAs (Decidable (0 < value))
  | .sin | .cos | .tan | .abs => inferInstanceAs (Decidable True)

/-- The number that a function has inside its domain. -/
def Function.result : Function → Binary64 → Binary64
  | .sin, x => x.sin
  | .cos, x => x.cos
  | .tan, x => x.tan
  | .sqrt, x => x.sqrt
  | .log, x => x.log10
  | .ln, x => x.ln
  | .abs, x => x.abs

/-- The number that an operator gives unless it divides by zero. -/
def BinaryOp.result : BinaryOp → Binary64 → Binary64 → Binary64
  | .add, x, y => x + y
  | .sub, x, y => x - y
  | .mul, x, y => x * y
  | .div, x, y => x / y
  | .pow, x, y => x.pow y

theorem Function.apply_eq (f : Function) {x : Binary64} (hFinite : x.isFinite = true) :
    f.apply x = if f.Domain x.exact then .ok (f.result x) else .error (.outOfDomain f) := by
  have hBelow : x.isBelowZero = true ↔ ¬ 0 ≤ x.exact :=
    (Binary64.isBelowZero_iff hFinite).trans not_le.symm
  have hAtMost : x.isAtMostZero = true ↔ ¬ 0 < x.exact :=
    (Binary64.isAtMostZero_iff hFinite).trans not_lt.symm
  cases f with
  | sqrt => by_cases h : 0 ≤ x.exact <;> simp [apply, Domain, result, hBelow, h]
  | log => by_cases h : 0 < x.exact <;> simp only [apply, Domain, result, hAtMost, h] <;> rfl
  | ln => by_cases h : 0 < x.exact <;> simp only [apply, Domain, result, hAtMost, h] <;> rfl
  | sin => simp [apply, Domain, result]
  | cos => simp [apply, Domain, result]
  | tan => simp [apply, Domain, result]
  | abs => simp [apply, Domain, result]

theorem BinaryOp.apply_eq (op : BinaryOp) (x : Binary64) {y : Binary64}
    (hFinite : y.isFinite = true) :
    op.apply x y =
      if op = .div ∧ y.exact = 0 then .error .divisionByZero else .ok (op.result x y) := by
  have hZero := Binary64.isZero_iff hFinite
  cases op with
  | div => by_cases h : y.exact = 0 <;> simp [apply, result, hZero, h]
  | add => rfl
  | sub => rfl
  | mul => rfl
  | pow => rfl

/-- A number as the value of a node: it has to be finite. -/
def finiteOnly (x : Binary64) : Except CalcError Binary64 :=
  if x.isFinite then .ok x else .error .notFinite

theorem isFinite_of_finiteOnly {x y : Binary64} (h : finiteOnly x = .ok y) :
    y.isFinite = true := by
  unfold finiteOnly at h
  split at h
  next hFinite =>
    cases h
    exact hFinite
  next => cases h

/-- A computation in two stages succeeds only if both do. -/
theorem exists_of_bind_eq_ok {ε α β : Type} {first : Except ε α} {second : α → Except ε β}
    {y : β} (h : first >>= second = .ok y) : ∃ x, first = .ok x ∧ second x = .ok y := by
  cases first with
  | error error => cases h
  | ok x => exact ⟨x, rfl, h⟩

namespace ExprTree

/-- The value of a tree, or the first error on the way to it. -/
def value : ExprTree → Except CalcError Binary64
  | number x => finiteOnly x
  | constant c => finiteOnly c.value
  | negate operand => do
      let x ← operand.value
      finiteOnly (-x)
  | call f argument => do
      let x ← argument.value
      if f.Domain x.exact then finiteOnly (f.result x) else .error (.outOfDomain f)
  | binary op left right => do
      let x ← left.value
      let y ← right.value
      if op = .div ∧ y.exact = 0 then .error .divisionByZero
      else finiteOnly (op.result x y)

/-- A value is a finite number. -/
theorem isFinite_of_value {e : ExprTree} {x : Binary64} (h : e.value = .ok x) :
    x.isFinite = true := by
  cases e with
  | number y => exact isFinite_of_finiteOnly h
  | constant c => exact isFinite_of_finiteOnly h
  | negate operand =>
      obtain ⟨y, -, hLast⟩ := exists_of_bind_eq_ok h
      exact isFinite_of_finiteOnly hLast
  | call f argument =>
      obtain ⟨y, -, hLast⟩ := exists_of_bind_eq_ok h
      split at hLast
      · exact isFinite_of_finiteOnly hLast
      · cases hLast
  | binary op left right =>
      obtain ⟨y, -, hRight⟩ := exists_of_bind_eq_ok h
      obtain ⟨z, -, hLast⟩ := exists_of_bind_eq_ok hRight
      split at hLast
      · cases hLast
      · exact isFinite_of_finiteOnly hLast

/-- A negated value is finite again, so that a sign adds no error. -/
theorem value_negate (e : ExprTree) : e.negate.value = e.value.map fun x => -x := by
  show (e.value >>= fun x => finiteOnly (-x)) = _
  cases hValue : e.value with
  | error error => rfl
  | ok x =>
      have hFinite : (-x).isFinite = true :=
        (Binary64.isFinite_neg x).trans (isFinite_of_value hValue)
      show finiteOnly (-x) = .ok (-x)
      rw [finiteOnly, if_pos hFinite]

end ExprTree

namespace Rpn

theorem push_eq (x : Binary64) (stack : List Binary64) :
    push x stack = (finiteOnly x).map fun y => y :: stack := by
  unfold push finiteOnly
  split <;> rfl

theorem step_function (f : Function) {x : Binary64} (hFinite : x.isFinite = true)
    (stack : List Binary64) :
    step (x :: stack) (.function f) =
      (if f.Domain x.exact then finiteOnly (f.result x) else .error (.outOfDomain f)).map
        fun y => y :: stack := by
  show (f.apply x >>= fun y => push y stack) = _
  rw [f.apply_eq hFinite]
  split
  · exact push_eq (f.result x) stack
  · rfl

theorem step_binary (op : BinaryOp) (x : Binary64) {y : Binary64} (hFinite : y.isFinite = true)
    (stack : List Binary64) :
    step (y :: x :: stack) (.binary op) =
      (if op = .div ∧ y.exact = 0 then .error .divisionByZero
        else finiteOnly (op.result x y)).map fun z => z :: stack := by
  show (op.apply x y >>= fun z => push z stack) = _
  rw [op.apply_eq x hFinite]
  split
  · rfl
  · exact push_eq (op.result x y) stack

/-- **A listing pushes the value of its tree**, or stops at the tree's error,
whatever lies below on the stack. -/
theorem foldlM_step_postorder (e : ExprTree) (stack : List Binary64) :
    e.postorder.foldlM step stack = e.value.map fun x => x :: stack := by
  induction e generalizing stack with
  | number x =>
      rw [ExprTree.postorder, List.foldlM_cons]
      show step stack (.number x) >>= pure = _
      rw [bind_pure]
      exact push_eq x stack
  | constant c =>
      rw [ExprTree.postorder, List.foldlM_cons]
      show step stack (.constant c) >>= pure = _
      rw [bind_pure]
      exact push_eq c.value stack
  | negate operand ih =>
      rw [ExprTree.postorder, List.foldlM_append, ih, ExprTree.value]
      cases hValue : operand.value with
      | error error => rfl
      | ok x =>
          show step (x :: stack) .negate >>= pure = _
          rw [bind_pure]
          exact push_eq (-x) stack
  | call f argument ih =>
      rw [ExprTree.postorder, List.foldlM_append, ih, ExprTree.value]
      cases hValue : argument.value with
      | error error => rfl
      | ok x =>
          show step (x :: stack) (.function f) >>= pure = _
          rw [bind_pure]
          exact step_function f (ExprTree.isFinite_of_value hValue) stack
  | binary op left right ihLeft ihRight =>
      rw [ExprTree.postorder, List.foldlM_append, List.foldlM_append, ihLeft, ExprTree.value]
      cases hLeft : left.value with
      | error error => rfl
      | ok x =>
          show (right.postorder.foldlM step (x :: stack) >>= _) = _
          rw [ihRight]
          cases hRight : right.value with
          | error error => rfl
          | ok y =>
              show step (y :: x :: stack) (.binary op) >>= pure = _
              rw [bind_pure]
              exact step_binary op x (ExprTree.isFinite_of_value hRight) stack

theorem length_of_push {x : Binary64} {stack next : List Binary64}
    (h : push x stack = .ok next) : next.length = stack.length + 1 := by
  unfold push at h
  split at h
  · cases h
    rfl
  · cases h

/-- A step that succeeds on numbers succeeds on as many trees. -/
theorem exists_grow_of_step {stack next : List Binary64} {trees : List ExprTree} {t : Token}
    (hLength : trees.length = stack.length) (h : step stack t = .ok next) :
    ∃ grown, ExprTree.grow trees t = some grown ∧ grown.length = next.length := by
  unfold step at h
  split at h
  next x _ =>
    rw [length_of_push h]
    exact ⟨_, rfl, congrArg (· + 1) hLength⟩
  next c _ =>
    rw [length_of_push h]
    exact ⟨_, rfl, congrArg (· + 1) hLength⟩
  next x _ =>
    rw [length_of_push h]
    match trees, hLength with
    | tree :: rest, hLength => exact ⟨_, rfl, hLength⟩
  next f x _ =>
    obtain ⟨y, -, hPush⟩ := exists_of_bind_eq_ok h
    rw [length_of_push hPush]
    match trees, hLength with
    | tree :: rest, hLength => exact ⟨_, rfl, hLength⟩
  next op y x _ =>
    obtain ⟨z, -, hPush⟩ := exists_of_bind_eq_ok h
    rw [length_of_push hPush]
    match trees, hLength with
    | right :: left :: rest, hLength => exact ⟨_, rfl, Nat.succ.inj hLength⟩
  next => cases h
  next => cases h
  next => cases h

/-- A run that succeeds on numbers succeeds on as many trees. -/
theorem exists_grown_of_run {tokens : List Token} {stack final : List Binary64}
    {trees : List ExprTree} (hLength : trees.length = stack.length)
    (h : tokens.foldlM step stack = .ok final) :
    ∃ grown, tokens.foldlM ExprTree.grow trees = some grown ∧ grown.length = final.length := by
  induction tokens generalizing stack trees with
  | nil =>
      have hSame : stack = final := Except.ok.inj h
      exact ⟨trees, rfl, hSame ▸ hLength⟩
  | cons t rest ih =>
      rw [List.foldlM_cons] at h
      obtain ⟨next, hStep, hRest⟩ := exists_of_bind_eq_ok h
      obtain ⟨grown, hGrow, hNext⟩ := exists_grow_of_step hLength hStep
      obtain ⟨last, hLast, hFinal⟩ := ih hNext hRest
      refine ⟨last, ?_, hFinal⟩
      rw [List.foldlM_cons, hGrow]
      exact hLast

/-- A list of tokens with a value is the listing of a tree. -/
theorem exists_tree_of_evaluate {tokens : List Token} {x : Binary64}
    (h : evaluate tokens = .ok x) : ∃ e : ExprTree, tokens = e.postorder := by
  obtain ⟨final, hRun, hLast⟩ := exists_of_bind_eq_ok h
  have hTrees : ([] : List ExprTree).length = ([] : List Binary64).length := rfl
  obtain ⟨grown, hGrown, hLength⟩ := exists_grown_of_run hTrees hRun
  split at hLast
  next y =>
    match grown, hLength with
    | [e], _ => exact ⟨e, ExprTree.foldlM_grow_eq_singleton_iff.1 hGrown⟩
  next => cases hLast

/-- The listing of a tree has the tree's value. -/
theorem evaluate_postorder (e : ExprTree) : evaluate e.postorder = e.value := by
  unfold evaluate
  rw [foldlM_step_postorder]
  cases e.value with
  | error error => rfl
  | ok x => rfl

/-- **A listing has the value of its tree, or the first error met on the way to
it, and every other list of tokens is an error.** -/
theorem evaluate_postorder_and_error :
    (∀ e : ExprTree, evaluate e.postorder = e.value) ∧
      ∀ tokens : List Token, (∀ e : ExprTree, tokens ≠ e.postorder) →
        ∃ error, evaluate tokens = .error error := by
  refine ⟨evaluate_postorder, ?_⟩
  intro tokens hNone
  cases hValue : evaluate tokens with
  | error error => exact ⟨error, rfl⟩
  | ok x =>
      obtain ⟨e, hListing⟩ := exists_tree_of_evaluate hValue
      exact absurd hListing (hNone e)

/-- One operand is too few for a sum. -/
theorem evaluate_sum_of_one :
    (∀ e : ExprTree, [Token.constant .pi, .binary .add] ≠ e.postorder) ∧
      ∃ error, evaluate [.constant .pi, .binary .add] = .error error := by
  have hNone : ∀ e : ExprTree, [Token.constant .pi, .binary .add] ≠ e.postorder := by
    intro e hListing
    have hGrow := ExprTree.foldlM_grow_eq_singleton_iff.2 hListing
    cases hGrow
  exact ⟨hNone, evaluate_postorder_and_error.2 _ hNone⟩

end Rpn

end DeskCalc
