import DeskCalc.Expr.Token

/-!
# Expression trees

A tree says which operands every operator has, so that neither precedence nor
parentheses are left in it. `postorder` lists a tree in evaluation order: the
operands from left to right, then the operator.

## Main results

* `postorder_injective` — no two trees have the same listing.
-/

namespace DeskCalc

/-- An expression with its grouping made explicit. -/
inductive ExprTree where
  | number (x : Binary64)
  | constant (c : Constant)
  | negate (operand : ExprTree)
  | call (f : Function) (argument : ExprTree)
  | binary (op : BinaryOp) (left right : ExprTree)
deriving DecidableEq, Repr

namespace ExprTree

/-- The tokens of a tree in evaluation order. -/
def postorder : ExprTree → List Token
  | number x => [.number x]
  | constant c => [.constant c]
  | negate operand => operand.postorder ++ [.negate]
  | call f argument => argument.postorder ++ [.function f]
  | binary op left right => left.postorder ++ right.postorder ++ [.binary op]

/-- Take one token of a listing on a stack of trees, the latest tree first;
`none` if an operator finds too few of them or the token is a parenthesis. -/
def grow : List ExprTree → Token → Option (List ExprTree)
  | stack, .number x => some (number x :: stack)
  | stack, .constant c => some (constant c :: stack)
  | operand :: stack, .negate => some (negate operand :: stack)
  | argument :: stack, .function f => some (call f argument :: stack)
  | right :: left :: stack, .binary op => some (binary op left right :: stack)
  | _, _ => none

/-- A whole listing puts its tree on the stack, whatever lies below. -/
theorem foldlM_grow_postorder (e : ExprTree) (stack : List ExprTree) :
    e.postorder.foldlM grow stack = some (e :: stack) := by
  induction e generalizing stack with
  | number x => rfl
  | constant c => rfl
  | negate operand ih => simp [postorder, ih, grow]
  | call f argument ih => simp [postorder, ih, grow]
  | binary op left right ihLeft ihRight => simp [postorder, ihLeft, ihRight, grow]

/-- **A listing names its tree**: no two trees have the same one. -/
theorem postorder_injective {e f : ExprTree} (h : e.postorder = f.postorder) : e = f := by
  have hTree := foldlM_grow_postorder e []
  rw [h, foldlM_grow_postorder f []] at hTree
  simpa using hTree.symm

/-- The tokens of a stack of trees, the bottom of the stack first. -/
def listing (stack : List ExprTree) : List Token :=
  (stack.reverse.map postorder).flatten

@[simp] theorem listing_cons (e : ExprTree) (stack : List ExprTree) :
    listing (e :: stack) = listing stack ++ e.postorder := by
  simp [listing]

/-- A token taken on a stack of trees extends the tokens of the stack by
itself. -/
theorem listing_grow {stack grown : List ExprTree} {t : Token}
    (h : grow stack t = some grown) : listing grown = listing stack ++ [t] := by
  unfold grow at h
  split at h
  case h_6 => cases h
  all_goals
    cases h
    simp [postorder]

/-- A run over tokens extends the tokens of the stack by those taken. -/
theorem listing_foldlM_grow {tokens : List Token} {stack grown : List ExprTree}
    (h : tokens.foldlM grow stack = some grown) : listing grown = listing stack ++ tokens := by
  induction tokens generalizing stack with
  | nil =>
      have hSame : stack = grown := by simpa using h
      rw [hSame, List.append_nil]
  | cons t rest ih =>
      rw [List.foldlM_cons] at h
      obtain ⟨next, hNext, hRest⟩ := Option.bind_eq_some_iff.1 h
      rw [ih hRest, listing_grow hNext, List.append_assoc]
      rfl

/-- Exactly the listing of a tree leaves that tree alone on the stack. -/
theorem foldlM_grow_eq_singleton_iff {tokens : List Token} {e : ExprTree} :
    tokens.foldlM grow [] = some [e] ↔ tokens = e.postorder := by
  constructor
  · intro h
    have hListing := listing_foldlM_grow h
    simpa using hListing.symm
  · rintro rfl
    exact foldlM_grow_postorder e []

end ExprTree

end DeskCalc
