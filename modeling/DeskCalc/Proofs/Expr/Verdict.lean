import DeskCalc.Proofs.Expr.Balance

/-!
# What a verdict depends on

The balance of an expression does not look at numbers, at constants or at functions
beyond their being there. Behind an operand the five binary operators are alike to it,
and a negation is refused. Where an operand is due two kinds are told apart: `+`, `-`
and the negation are signs, and `*`, `/` and `^` miss their left operand. So the verdict
on a list of tokens is that of its `outline`, in which one token stands for all tokens
of its kind.

The depth counts the parentheses, so that an unbalanced one is found only where the
counts differ.

## Main results

* `Balance.run_outline` — a list and its outline are judged alike.
* `Balance.depth_of_run` — the depth along a run.
* `toRpn_verdict` — the verdict of the ordering pass, and what it depends on.
-/

namespace DeskCalc

namespace Token

/-- The token completes an operand. -/
def endsOperand : Token → Bool
  | number _ => true
  | constant _ => true
  | closing => true
  | _ => false

/-- The token that stands for all tokens of its kind, behind an operand or where one
is due. -/
def plain (afterOperand : Bool) : Token → Token
  | number _ => .constant .pi
  | constant _ => .constant .pi
  | function _ => .function .sin
  | binary op => if afterOperand ∨ op = .add ∨ op = .sub then .binary .sub else .binary .mul
  | negate => if afterOperand then .negate else .binary .sub
  | opening => .opening
  | closing => .closing

/-- The tokens by their kinds. -/
def outline (afterOperand : Bool) : List Token → List Token
  | [] => []
  | t :: rest => t.plain afterOperand :: outline t.endsOperand rest

/-- Every parenthesis has its counterpart, the opening one in front. -/
structure Balanced (tokens : List Token) : Prop where
  count_le : ∀ front, front <+: tokens → front.count .closing ≤ front.count .opening
  count_eq : tokens.count .closing = tokens.count .opening

theorem plain_eq_opening_iff {afterOperand : Bool} {t : Token} :
    t.plain afterOperand = .opening ↔ t = .opening := by
  cases t with
  | binary op =>
      rw [plain]
      split <;> simp
  | negate =>
      rw [plain]
      split <;> simp
  | _ => simp [plain]

theorem head?_outline_eq_opening_iff {afterOperand : Bool} {tokens : List Token} :
    (outline afterOperand tokens).head? = some .opening ↔ tokens.head? = some .opening := by
  cases tokens with
  | nil => rfl
  | cons t rest => simp [outline, plain_eq_opening_iff]

end Token

namespace Balance

variable {b c : Balance} {t : Token} {next : Option Token} {tokens : List Token}

/-! ## One token -/

/-- Tokens of one kind are judged alike. -/
theorem step_plain (b : Balance) (t : Token) {other : Option Token}
    (hNext : other = some .opening ↔ next = some .opening) :
    b.step (t.plain b.afterOperand) other = b.step t next := by
  cases hAfter : b.afterOperand with
  | false =>
      cases t with
      | binary op => cases op <;> simp [Token.plain, step, hAfter]
      | _ => simp [Token.plain, step, hAfter, hNext]
  | true => cases t <;> simp [Token.plain, step, hAfter]

/-- **What one token does**: the bit is its own, and the depth counts the
parentheses. -/
theorem after_step (h : b.step t next = .ok c) :
    c.afterOperand = t.endsOperand ∧
      c.depth + [t].count .closing = b.depth + [t].count .opening := by
  cases t with
  | function f =>
      rw [step] at h
      split at h
      · cases h
      next hAfter =>
        split at h
        · cases h
          exact ⟨eq_false_of_ne_true hAfter, rfl⟩
        · cases h
  | closing =>
      rw [step] at h
      split at h
      · cases h
      · split at h
        · cases h
        · cases h
          refine ⟨rfl, ?_⟩
          show b.depth - 1 + 1 = b.depth
          omega
  | negate =>
      rw [step] at h
      split at h
      · cases h
      next hAfter =>
        cases h
        exact ⟨eq_false_of_ne_true hAfter, rfl⟩
  | binary op =>
      rw [step] at h
      split at h
      · cases h
        exact ⟨rfl, rfl⟩
      next hAfter =>
        split at h
        · cases h
          exact ⟨eq_false_of_ne_true hAfter, rfl⟩
        · cases h
  | _ =>
      rw [step] at h
      split at h
      · cases h
      · cases h
        exact ⟨rfl, rfl⟩

/-- On the way only a closing parenthesis outside all groups is unbalanced. -/
theorem closing_of_step_unbalanced (h : b.step t next = .error .unbalancedParentheses) :
    t = .closing ∧ b.depth = 0 := by
  cases t with
  | closing =>
      rw [step] at h
      split at h
      · cases h
      · split at h
        next hDepth => exact ⟨rfl, hDepth⟩
        · cases h
  | _ =>
      rw [step] at h
      repeat' split at h
      all_goals cases h

/-! ## Runs -/

/-- **A list and its outline are judged alike.** -/
theorem run_outline (b : Balance) (tokens : List Token) :
    b.run (Token.outline b.afterOperand tokens) = b.run tokens := by
  induction tokens generalizing b with
  | nil => rfl
  | cons t rest ih =>
      have hStep : b.step (t.plain b.afterOperand) (Token.outline t.endsOperand rest).head? =
          b.step t rest.head? := b.step_plain t Token.head?_outline_eq_opening_iff
      rw [Token.outline, run, run, hStep]
      cases hNext : b.step t rest.head? with
      | error error => rfl
      | ok c =>
          show c.run (Token.outline t.endsOperand rest) = c.run rest
          rw [← (after_step hNext).1]
          exact ih c

/-- **The depth along a run** counts the parentheses. -/
theorem depth_of_run (h : b.run tokens = .ok c) :
    c.depth + tokens.count .closing = b.depth + tokens.count .opening := by
  induction tokens generalizing b with
  | nil =>
      cases h
      rfl
  | cons t rest ih =>
      rw [run] at h
      cases hNext : b.step t rest.head? with
      | error error =>
          rw [hNext] at h
          cases h
      | ok d =>
          rw [hNext] at h
          have hFirst := (after_step hNext).2
          have hRest := ih h
          rw [← List.singleton_append, List.count_append, List.count_append]
          omega

/-- A run that stops at an unbalanced parenthesis has met more closing than opening
ones. -/
theorem exists_prefix_of_run_unbalanced (h : b.run tokens = .error .unbalancedParentheses) :
    ∃ front, front <+: tokens ∧ b.depth + front.count .opening < front.count .closing := by
  induction tokens generalizing b with
  | nil => cases h
  | cons t rest ih =>
      rw [run] at h
      cases hNext : b.step t rest.head? with
      | error error =>
          rw [hNext] at h
          cases h
          obtain ⟨rfl, hDepth⟩ := closing_of_step_unbalanced hNext
          refine ⟨[.closing], ⟨rest, rfl⟩, ?_⟩
          rw [hDepth]
          decide
      | ok d =>
          rw [hNext] at h
          obtain ⟨front, hPrefix, hCount⟩ := ih h
          have hFirst := (after_step hNext).2
          refine ⟨t :: front, List.cons_prefix_cons.2 ⟨rfl, hPrefix⟩, ?_⟩
          rw [← List.singleton_append, List.count_append, List.count_append]
          omega

/-! ## Verdicts -/

theorem verdict_outline (tokens : List Token) :
    verdict (Token.outline false tokens) = verdict tokens := by
  have hRun : start.run (Token.outline false tokens) = start.run tokens := start.run_outline tokens
  have hEmpty : (Token.outline false tokens).isEmpty = tokens.isEmpty := by cases tokens <;> rfl
  rw [verdict, verdict, hRun, hEmpty]

/-- At the end only an open group is unbalanced. -/
theorem depth_pos_of_finish_unbalanced (h : b.finish = .error .unbalancedParentheses) :
    0 < b.depth := by
  rw [finish] at h
  split at h
  · cases h
  · split at h
    · cases h
    next hDepth => exact Nat.pos_of_ne_zero hDepth

/-- Balanced parentheses are not found unbalanced, on the way or at the end. -/
theorem verdict_ne_unbalanced (h : Token.Balanced tokens) :
    verdict tokens ≠ .error .unbalancedParentheses := by
  intro hVerdict
  have hStart : start.depth = 0 := rfl
  rw [verdict] at hVerdict
  split at hVerdict
  · cases hVerdict
  · cases hRun : start.run tokens with
    | error error =>
        rw [hRun] at hVerdict
        cases hVerdict
        obtain ⟨front, hPrefix, hMore⟩ := exists_prefix_of_run_unbalanced hRun
        have hLess := h.count_le front hPrefix
        omega
    | ok b =>
        rw [hRun] at hVerdict
        have hOpen := depth_pos_of_finish_unbalanced hVerdict
        have hDepth := depth_of_run hRun
        rw [h.count_eq] at hDepth
        omega

end Balance

/-- **The verdict of the ordering pass, and what it depends on.** Whether a list of
tokens can be ordered, and with which error the pass stops otherwise, is found from
left to right with nothing but the number of open parentheses and whether the last
token completed an operand. Balanced parentheses are never found unbalanced, and
lists with one outline have one verdict. -/
theorem toRpn_verdict (tokens : List Token) :
    (toRpn tokens).map (fun _ => ()) = Balance.verdict tokens ∧
    (Token.Balanced tokens → toRpn tokens ≠ .error .unbalancedParentheses) ∧
    ∀ others, Token.outline false others = Token.outline false tokens →
      (toRpn others).map (fun _ => ()) = (toRpn tokens).map fun _ => () := by
  refine ⟨toRpn_map_unit tokens, ?_, ?_⟩
  · intro hBalanced hError
    have hVerdict := toRpn_map_unit tokens
    rw [hError] at hVerdict
    exact Balance.verdict_ne_unbalanced hBalanced hVerdict.symm
  · intro others hOutline
    rw [toRpn_map_unit, toRpn_map_unit, ← Balance.verdict_outline others, hOutline,
      Balance.verdict_outline]

/-- Another function, another operator behind an operand and another operand make no
difference. -/
theorem toRpn_verdict_other_call :
    let two : Token := .number (Decimal.toBinary64 ⟨2, 0⟩)
    let tokens : List Token :=
      [.function .sin, .opening, .binary .sub, two, .binary .add, .constant .e, .closing]
    let others : List Token :=
      [.function .ln, .opening, .binary .add, .constant .pi, .binary .pow, two, .closing]
    Token.Balanced tokens ∧ Token.outline false others = Token.outline false tokens ∧
      toRpn tokens ≠ .error .unbalancedParentheses ∧
      (toRpn others).map (fun _ => ()) = (toRpn tokens).map fun _ => () := by
  intro two tokens others
  have hBalanced : Token.Balanced tokens := by
    refine ⟨?_, by decide⟩
    intro front hPrefix
    have hAll : ∀ k ≤ 7, (tokens.take k).count .closing ≤ (tokens.take k).count .opening := by
      decide
    rw [List.prefix_iff_eq_take.1 hPrefix]
    exact hAll front.length hPrefix.length_le
  have hOutline : Token.outline false others = Token.outline false tokens := rfl
  obtain ⟨-, hNot, hSame⟩ := toRpn_verdict tokens
  exact ⟨hBalanced, hOutline, hNot hBalanced, hSame others hOutline⟩

/-- Where an operand is due a sign may stand and a product may not, so there one
operator cannot take the place of any other. -/
theorem sign_is_no_product :
    ¬ ∀ (op other : BinaryOp) (before after : List Token),
      (toRpn (before ++ .binary op :: after)).map (fun _ => ()) =
        (toRpn (before ++ .binary other :: after)).map fun _ => () := by
  intro h
  have hSame := h .sub .mul [] [.number (Decimal.toBinary64 ⟨2, 0⟩)]
  have hSign : toRpn ([] ++ .binary .sub :: [.number (Decimal.toBinary64 ⟨2, 0⟩)]) =
      .ok [.number (Decimal.toBinary64 ⟨2, 0⟩), .negate] := rfl
  have hProduct : toRpn ([] ++ .binary .mul :: [.number (Decimal.toBinary64 ⟨2, 0⟩)]) =
      .error (.grammar .missingLeftOperand) := rfl
  rw [hSign, hProduct] at hSame
  cases hSame

end DeskCalc
