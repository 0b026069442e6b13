import DeskCalc.Proofs.Expr.Balance
import DeskCalc.Proofs.Expr.Grammar

/-!
# What the balance accepts is derivable

`Accepts b tokens` says that the balance, read on from `b`, ends without an
error. Such a list is taken apart from the left: an operand is split off its
front (`exists_operand`), then as many operators and operands as follow
(`exists_sum`), down to the end of the list or to the closing parenthesis of
the innermost open group. The induction is on the length of what remains, so
that the inside of a group is shorter than the group.

## Main results

* `exists_derives_of_verdict` — a list with a good verdict is a sum.
-/

namespace DeskCalc

/-- Read on from `b`, the tokens end without an error. -/
def Accepts (b : Balance) (tokens : List Token) : Prop :=
  ∃ last, b.run tokens = .ok last ∧ last.finish = .ok ()

/-- The tokens end, or go on behind the closing parenthesis of the innermost
of `depth` open groups. -/
def Ends (depth : Nat) (tokens : List Token) : Prop :=
  (tokens = [] ∧ depth = 0) ∨
    ∃ outer rest, tokens = .closing :: rest ∧ depth = outer + 1 ∧ Accepts ⟨outer, true⟩ rest

/-- Where an operand is due, `tokens` begin with a sum that reaches to the end
of its group. -/
def BeginsWithSum (depth : Nat) (tokens : List Token) : Prop :=
  ∃ front rest e, tokens = front ++ rest ∧ Derives .sum front e ∧ Ends depth rest

/-- Where an operand is due, `tokens` begin with one. -/
def BeginsWithOperand (depth : Nat) (tokens : List Token) : Prop :=
  ∃ front rest e, tokens = front ++ rest ∧ Derives .operand front e ∧
    Accepts ⟨depth, true⟩ rest

namespace Accepts

variable {b : Balance} {depth : Nat} {t : Token} {tokens rest : List Token}

/-- An accepted list is accepted behind its first token. -/
theorem of_cons (h : Accepts b (t :: rest)) :
    ∃ next, b.step t rest.head? = .ok next ∧ Accepts next rest := by
  obtain ⟨last, hRun, hFinish⟩ := h
  rw [Balance.run] at hRun
  cases hStep : b.step t rest.head? with
  | error e => simp [hStep] at hRun
  | ok next =>
      rw [hStep] at hRun
      exact ⟨next, rfl, last, hRun, hFinish⟩

/-- Nothing can be missing where an operand is due. -/
theorem ne_nil (h : Accepts ⟨depth, false⟩ tokens) : tokens ≠ [] := by
  rintro rfl
  obtain ⟨last, hRun, hFinish⟩ := h
  cases hRun
  cases hFinish

/-- Behind an operand the tokens end their group or go on with an operator. -/
theorem after_operand (h : Accepts ⟨depth, true⟩ tokens) :
    Ends depth tokens ∨
      ∃ op rest, tokens = .binary op :: rest ∧ Accepts ⟨depth, false⟩ rest := by
  cases tokens with
  | nil =>
      obtain ⟨last, hRun, hFinish⟩ := h
      cases hRun
      refine .inl (.inl ⟨rfl, ?_⟩)
      by_cases hDepth : depth = 0
      · exact hDepth
      · simp [Balance.finish, hDepth] at hFinish
  | cons t rest =>
      obtain ⟨next, hStep, hRest⟩ := h.of_cons
      cases t with
      | closing =>
          cases depth with
          | zero => simp [Balance.step] at hStep
          | succ outer =>
              have hNext : next = ⟨outer, true⟩ := by simpa [Balance.step] using hStep.symm
              exact .inl (.inr ⟨outer, rest, rfl, rfl, hNext ▸ hRest⟩)
      | binary op =>
          have hNext : next = ⟨depth, false⟩ := by simpa [Balance.step] using hStep.symm
          exact .inr ⟨op, rest, rfl, hNext ▸ hRest⟩
      | _ => simp [Balance.step, Balance.fail] at hStep

end Accepts

/-- The inside of a group and its closing parenthesis, split off behind the
opening one. -/
theorem BeginsWithSum.exists_group {depth : Nat} {tokens : List Token}
    (h : BeginsWithSum (depth + 1) tokens) :
    ∃ inside rest e, tokens = inside ++ [.closing] ++ rest ∧ Derives .sum inside e ∧
      Accepts ⟨depth, true⟩ rest := by
  obtain ⟨inside, rest, e, rfl, hInside, hEnds⟩ := h
  rcases hEnds with ⟨-, hDepth⟩ | ⟨outer, behind, rfl, hDepth, hBehind⟩
  · cases hDepth
  · cases hDepth
    exact ⟨inside, behind, e, by simp, hInside, hBehind⟩

/-- **An operand is split off the front** of a list accepted where one is due,
given that sums are split off all shorter lists. -/
theorem exists_operand {bound : Nat}
    (hSum : ∀ depth tokens, tokens.length < bound → Accepts ⟨depth, false⟩ tokens →
      BeginsWithSum depth tokens)
    (depth : Nat) (tokens : List Token) (hLength : tokens.length ≤ bound)
    (h : Accepts ⟨depth, false⟩ tokens) : BeginsWithOperand depth tokens := by
  induction tokens with
  | nil => exact absurd rfl h.ne_nil
  | cons t rest ih =>
      rw [List.length_cons] at hLength
      obtain ⟨next, hStep, hRest⟩ := h.of_cons
      -- a sign changes nothing in the balance, so the rest begins with an operand too
      have hSigned : next = ⟨depth, false⟩ → BeginsWithOperand depth rest := by
        rintro rfl
        exact ih (by omega) hRest
      cases t with
      | number x =>
          have hNext : next = ⟨depth, true⟩ := by simpa [Balance.step] using hStep.symm
          exact ⟨[.number x], rest, .number x, rfl, .atom (.number x), hNext ▸ hRest⟩
      | constant c =>
          have hNext : next = ⟨depth, true⟩ := by simpa [Balance.step] using hStep.symm
          exact ⟨[.constant c], rest, .constant c, rfl, .atom (.constant c), hNext ▸ hRest⟩
      | function f =>
          cases rest with
          | nil => simp [Balance.step, Balance.fail] at hStep
          | cons first inner =>
              by_cases hFirst : first = .opening
              · subst hFirst
                have hNext : next = ⟨depth, false⟩ := by
                  simpa [Balance.step] using hStep.symm
                subst hNext
                obtain ⟨opened, hOpen, hInner⟩ := hRest.of_cons
                have hOpened : opened = ⟨depth + 1, false⟩ := by
                  simpa [Balance.step] using hOpen.symm
                subst hOpened
                rw [List.length_cons] at hLength
                obtain ⟨inside, behind, e, rfl, hInside, hBehind⟩ :=
                  (hSum (depth + 1) inner (by omega) hInner).exists_group
                exact ⟨.function f :: .opening :: inside ++ [.closing], behind, .call f e,
                  by simp, .atom (.call f hInside), hBehind⟩
              · simp [Balance.step, Balance.fail, hFirst] at hStep
      | opening =>
          have hNext : next = ⟨depth + 1, false⟩ := by simpa [Balance.step] using hStep.symm
          subst hNext
          obtain ⟨inside, behind, e, rfl, hInside, hBehind⟩ :=
            (hSum (depth + 1) rest (by omega) hRest).exists_group
          exact ⟨.opening :: inside ++ [.closing], behind, e, by simp, .atom (.group hInside),
            hBehind⟩
      | closing => simp [Balance.step, Balance.fail] at hStep
      | negate =>
          obtain ⟨front, behind, e, rfl, hFront, hBehind⟩ :=
            hSigned (by simpa [Balance.step] using hStep.symm)
          exact ⟨.negate :: front, behind, .negate e, rfl, .negate hFront, hBehind⟩
      | binary op =>
          cases op with
          | add =>
              obtain ⟨front, behind, e, rfl, hFront, hBehind⟩ :=
                hSigned (by simpa [Balance.step] using hStep.symm)
              exact ⟨.binary .add :: front, behind, e, rfl, .plus hFront, hBehind⟩
          | sub =>
              obtain ⟨front, behind, e, rfl, hFront, hBehind⟩ :=
                hSigned (by simpa [Balance.step] using hStep.symm)
              exact ⟨.binary .sub :: front, behind, .negate e, rfl, .minus hFront, hBehind⟩
          | _ => simp [Balance.step, Balance.fail] at hStep

/-- A sum goes on as far as its group, given that operands are split off the
lists that follow. -/
theorem exists_sum_extension {depth bound : Nat}
    (hOperand : ∀ tokens, tokens.length < bound → Accepts ⟨depth, false⟩ tokens →
      BeginsWithOperand depth tokens)
    (terms tokens : List Token) (e : ExprTree) (hLength : tokens.length ≤ bound)
    (hTerms : Derives .sum terms e) (h : Accepts ⟨depth, true⟩ tokens) :
    BeginsWithSum depth (terms ++ tokens) := by
  rcases h.after_operand with hEnds | ⟨op, rest, rfl, hRest⟩
  · exact ⟨terms, tokens, e, rfl, hTerms, hEnds⟩
  · rw [List.length_cons] at hLength
    obtain ⟨front, behind, f, rfl, hDerives, hBehind⟩ :=
      hOperand rest (by omega) hRest
    obtain ⟨g, hMore⟩ := hTerms.exists_snoc op hDerives
    have hExtended := exists_sum_extension hOperand (terms ++ .binary op :: front) behind g
      (by simp only [List.length_append] at hLength; omega) hMore hBehind
    simpa using hExtended
termination_by tokens.length
decreasing_by
  subst_vars
  simp only [List.length_cons, List.length_append]
  omega

/-- **A sum is split off the front** of a list accepted where an operand is
due. -/
theorem exists_sum (depth : Nat) (tokens : List Token) (h : Accepts ⟨depth, false⟩ tokens) :
    BeginsWithSum depth tokens := by
  have hOperand : ∀ shorter : List Token, shorter.length ≤ tokens.length →
      Accepts ⟨depth, false⟩ shorter → BeginsWithOperand depth shorter := by
    intro shorter hShorter
    refine exists_operand (fun inner inside hInside => ?_) depth shorter hShorter
    exact exists_sum inner inside
  obtain ⟨front, rest, e, rfl, hDerives, hRest⟩ := hOperand tokens (Nat.le_refl _) h
  have hBehind : ∀ shorter : List Token, shorter.length < rest.length →
      Accepts ⟨depth, false⟩ shorter → BeginsWithOperand depth shorter := by
    intro shorter hShorter
    exact hOperand shorter (by simp only [List.length_append]; omega)
  exact exists_sum_extension hBehind front rest e (Nat.le_refl _) hDerives.sum_of_operand hRest
termination_by tokens.length

/-- **A list with a good verdict is a sum.** -/
theorem exists_derives_of_verdict {tokens : List Token}
    (h : Balance.verdict tokens = .ok ()) : ∃ e, Derives .sum tokens e := by
  have hAccepts : Accepts ⟨0, false⟩ tokens := by
    unfold Balance.verdict at h
    split at h
    · cases h
    · cases hRun : Balance.start.run tokens with
      | error e => simp [hRun, bind, Except.bind] at h
      | ok last => exact ⟨last, hRun, by simpa [hRun, bind, Except.bind] using h⟩
  obtain ⟨front, rest, e, rfl, hFront, hEnds⟩ := exists_sum 0 tokens hAccepts
  rcases hEnds with ⟨rfl, -⟩ | ⟨outer, behind, rfl, hDepth, -⟩
  · exact ⟨e, by simpa using hFront⟩
  · cases hDepth

end DeskCalc
