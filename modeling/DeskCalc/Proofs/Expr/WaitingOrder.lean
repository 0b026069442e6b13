import Mathlib.Data.List.Chain
import DeskCalc.Proofs.Expr.Ordering
import DeskCalc.Proofs.Expr.Verdict

/-!
# What waits, and in which order

The ordering pass is right because of what holds each time it comes to a token. Within
a group the entries that wait never get weaker towards the top, so an operator finds
all that it has to write on top of all that it has to leave. A function waits directly
below its open group, so that the closing parenthesis finds it. And what has been
written and what waits is together what has been read: a sign in front of an operand as
what it means, and closed groups without their parentheses.

The invariant is about neighbours: `Pending.RestsOn` says what may lie directly on what.
One token keeps it (`Yard.InOrder.step`), and so does a run.

## Main results

* `Yard.release_perm`, `Yard.closeGroup_perm` — writing what waits loses nothing.
* `Yard.InOrder.step`, `Yard.InOrder.advance` — the invariant after one token and after
  several.
* `ordering_invariant` — the invariant wherever the pass comes to.
-/

namespace DeskCalc

namespace Token

/-- What a token means. In front of an operand a minus sign negates and a plus sign
leaves no trace. -/
def meanings (afterOperand : Bool) : Token → List Token
  | binary .sub => if afterOperand then [.binary .sub] else [.negate]
  | binary .add => if afterOperand then [.binary .add] else []
  | t => [t]

/-- The tokens by what they mean. -/
def resolved (afterOperand : Bool) : List Token → List Token
  | [] => []
  | t :: rest => t.meanings afterOperand ++ resolved t.endsOperand rest

/-- One more token, the latest coming first. A closing parenthesis is left out with the
opening one that it closes, the latest that is left. -/
def cancel (seen : List Token) : Token → List Token
  | closing => seen.erase .opening
  | t => t :: seen

/-- The tokens without the parentheses of closed groups, the latest coming first. -/
def unclosed (tokens : List Token) : List Token := tokens.foldl cancel []

/-- The last token completes an operand. -/
def endInOperand (tokens : List Token) : Bool := tokens.getLast?.any endsOperand

theorem endInOperand_append (tokens : List Token) (t : Token) :
    endInOperand (tokens ++ [t]) = t.endsOperand := by
  simp [endInOperand]

theorem resolved_append (tokens : List Token) (t : Token) :
    resolved false (tokens ++ [t]) =
      resolved false tokens ++ t.meanings (endInOperand tokens) := by
  have hFrom (afterOperand : Bool) : resolved afterOperand (tokens ++ [t]) =
      resolved afterOperand tokens ++
        t.meanings ((tokens.getLast?.map endsOperand).getD afterOperand) := by
    induction tokens generalizing afterOperand with
    | nil => simp [resolved]
    | cons first rest ih =>
        rw [List.cons_append, resolved, resolved, ih, List.append_assoc, List.getLast?_cons]
        cases rest.getLast? <;> rfl
  rw [hFrom, endInOperand]
  cases tokens.getLast? <;> rfl

theorem unclosed_append_singleton (tokens : List Token) (t : Token) :
    unclosed (tokens ++ [t]) = cancel (unclosed tokens) t := by
  simp [unclosed]

end Token

namespace Pending

/-- The entry `p` may wait above `q` in one group: it is not weaker, and only powers wait
on powers and negations on negations. -/
def StandsAbove (p q : Pending) : Prop :=
  q.strength ≤ p.strength ∧
    (q.strength = p.strength → q = p ∧ (p = .binary .pow ∨ p = .negate))

/-- The entry `p` may lie directly on `q`. A group may lie on anything. -/
def RestsOn (p q : Pending) : Prop := p = .group ∨ p.StandsAbove q

theorem eq_negate_of_strength {p : Pending} (h : p.strength = 4) : p = .negate := by
  cases p with
  | binary op => cases op <;> cases h
  | negate => rfl
  | _ => cases h

theorem eq_pow_of_strength {p : Pending} (h : p.strength = 3) : p = .binary .pow := by
  cases p with
  | binary op =>
      cases op with
      | pow => rfl
      | _ => cases h
  | _ => cases h

/-- Nothing is as strong as a function. -/
theorem strength_le_four {p : Pending} (h : ∀ f, p ≠ .function f) : p.strength ≤ 4 := by
  cases p with
  | function f => exact absurd rfl (h f)
  | binary op => cases op <;> decide
  | _ => decide

theorem StandsAbove.trans {p q r : Pending} (hUpper : p.StandsAbove q)
    (hLower : q.StandsAbove r) : p.StandsAbove r := by
  obtain ⟨hUpperLe, hUpperEq⟩ := hUpper
  obtain ⟨hLowerLe, hLowerEq⟩ := hLower
  refine ⟨Nat.le_trans hLowerLe hUpperLe, ?_⟩
  intro hEqual
  have hUpperSame := hUpperEq (by omega)
  have hLowerSame := hLowerEq (by omega)
  exact ⟨hLowerSame.1.trans hUpperSame.1, hUpperSame.2⟩

instance : IsTrans Pending StandsAbove := ⟨fun _ _ _ => StandsAbove.trans⟩

/-- Nothing but a group lies directly on a function. -/
theorem RestsOn.eq_group {p : Pending} {f : Function} (h : p.RestsOn (.function f)) :
    p = .group := by
  rcases h with hGroup | ⟨hLe, hEq⟩
  · exact hGroup
  · by_cases hFunction : ∃ g, p = .function g
    · obtain ⟨g, rfl⟩ := hFunction
      obtain ⟨-, hPower | hNegate⟩ := hEq rfl
      · cases hPower
      · cases hNegate
    · have hStrength : (Pending.function f).strength = 5 := rfl
      have hLess : p.strength ≤ 4 := strength_le_four fun g hg => hFunction ⟨g, hg⟩
      omega

/-- A function may lie on whatever is weaker. -/
theorem function_restsOn {q : Pending} (f : Function) (h : q.strength ≤ 4) :
    (Pending.function f).RestsOn q := by
  have hStrength : (Pending.function f).strength = 5 := rfl
  exact .inr ⟨by omega, fun hEqual => by omega⟩

/-- A negation may lie on whatever is not stronger. -/
theorem negate_restsOn {q : Pending} (h : q.strength ≤ 4) : Pending.negate.RestsOn q := by
  have hStrength : Pending.negate.strength = 4 := rfl
  refine .inr ⟨by omega, ?_⟩
  intro hEqual
  exact ⟨eq_negate_of_strength (by omega), .inr rfl⟩

/-- An operator may lie on what it leaves waiting. -/
theorem binary_restsOn {q : Pending} {op : BinaryOp} (h : q.precedes op = false) :
    (Pending.binary op).RestsOn q := by
  rw [← Bool.not_eq_true, precedes_iff, not_or] at h
  obtain ⟨hWeaker, hGroups⟩ := h
  have hStrength : (Pending.binary op).strength = op.strength := rfl
  refine .inr ⟨by omega, ?_⟩
  intro hEqual
  cases op with
  | pow => exact ⟨eq_pow_of_strength hEqual, .inl rfl⟩
  | _ => exact absurd ⟨rfl, hEqual.symm⟩ hGroups

end Pending

/-- Of the entries that wait each may lie on the one below it. -/
def Stacked (waiting : List Pending) : Prop := waiting.IsChain Pending.RestsOn

theorem Stacked.push {p : Pending} {waiting : List Pending} (h : Stacked waiting)
    (hTop : ∀ q ∈ waiting.head?, p.RestsOn q) : Stacked (p :: waiting) :=
  List.isChain_cons.2 ⟨hTop, h⟩

/-- Within a group, entries further up are not weaker. -/
theorem Stacked.pairwise {waiting segment : List Pending} (h : Stacked waiting)
    (hSegment : segment <:+: waiting) (hGroup : .group ∉ segment) :
    segment.Pairwise Pending.StandsAbove := by
  have hNeighbours : segment.IsChain Pending.RestsOn := List.IsChain.infix h hSegment
  rw [← List.isChain_iff_pairwise]
  apply hNeighbours.imp_of_mem_imp
  intro p q hp _ hRests
  rcases hRests with rfl | hAbove
  · exact absurd hp hGroup
  · exact hAbove

/-- A function is on top or has a group directly on it. -/
theorem Stacked.above_function {above below : List Pending} {f : Function}
    (h : Stacked (above ++ .function f :: below)) :
    above = [] ∨ above.getLast? = some .group := by
  rcases List.eq_nil_or_concat above with rfl | ⟨front, p, rfl⟩
  · exact .inl rfl
  · right
    have hPair : [p, .function f] <:+: front.concat p ++ .function f :: below :=
      ⟨front, below, by simp⟩
    have hNeighbours : List.IsChain Pending.RestsOn [p, .function f] := List.IsChain.infix h hPair
    rw [(List.isChain_pair.1 hNeighbours).eq_group]
    simp

/-- No function is on top. -/
theorem topAtMost_four_iff {waiting : List Pending} :
    TopAtMost 4 waiting ↔ ∀ f, waiting.head? ≠ some (.function f) := by
  constructor
  · intro h f hHead
    have hStrength : 5 ≤ 4 := h _ hHead
    exact absurd hStrength (by decide)
  · intro h p hp
    apply Pending.strength_le_four
    rintro f rfl
    exact h f hp

namespace Yard

/-! ## Writing what waits -/

section Writing

variable {written : List Token} {waiting : List Pending} {op : BinaryOp}
variable {closed : List Token × List Pending}

/-- What an operator leaves waiting is the lower part of what waited. -/
theorem release_suffix (op : BinaryOp) (written : List Token) (waiting : List Pending) :
    (release op written waiting).2 <:+ waiting := by
  fun_induction release op written waiting with
  | case1 written => exact List.suffix_refl _
  | case2 written p waiting h ih => exact ih.trans (List.suffix_cons p waiting)
  | case3 written p waiting h => exact List.suffix_refl _

theorem release_head? (op : BinaryOp) (written : List Token) (waiting : List Pending) :
    ∀ p ∈ (release op written waiting).2.head?, p.precedes op = false := by
  fun_induction release op written waiting with
  | case1 written =>
      rintro p ⟨⟩
  | case2 written p waiting h ih => exact ih
  | case3 written p waiting h =>
      rintro q ⟨⟩
      exact eq_false_of_ne_true h

/-- An entry that is written goes from what waits to what has been written. -/
theorem written_perm (p : Pending) (written : List Token) (waiting : List Pending) :
    (p.token :: written ++ waiting.map Pending.token).Perm
      (written ++ (p :: waiting).map Pending.token) :=
  List.perm_middle.symm

/-- **An operator that writes what waits loses nothing.** -/
theorem release_perm (op : BinaryOp) (written : List Token) (waiting : List Pending) :
    ((release op written waiting).1 ++ (release op written waiting).2.map Pending.token).Perm
      (written ++ waiting.map Pending.token) := by
  fun_induction release op written waiting with
  | case1 written => exact List.Perm.refl _
  | case2 written p waiting h ih => exact ih.trans (written_perm p written waiting)
  | case3 written p waiting h => exact List.Perm.refl _

/-- What waits below a closed group lies directly below it. -/
theorem closeGroup_suffix (h : closeGroup written waiting = some closed) :
    .group :: closed.2 <:+ waiting := by
  fun_induction closeGroup written waiting with
  | case1 written => cases h
  | case2 written waiting =>
      cases h
      exact List.suffix_refl _
  | case3 written p waiting hGroup ih => exact (ih h).trans (List.suffix_cons p waiting)

/-- **A closing parenthesis loses nothing** but the opening one. -/
theorem closeGroup_perm (h : closeGroup written waiting = some closed) :
    (.opening :: (closed.1 ++ closed.2.map Pending.token)).Perm
      (written ++ waiting.map Pending.token) := by
  fun_induction closeGroup written waiting with
  | case1 written => cases h
  | case2 written waiting =>
      cases h
      exact List.perm_middle.symm
  | case3 written p waiting hGroup ih => exact (ih h).trans (written_perm p written waiting)

theorem applyFunction_suffix (closed : List Token × List Pending) :
    (applyFunction closed).2 <:+ closed.2 := by
  unfold applyFunction
  split
  next f waiting => exact List.suffix_cons (.function f) waiting
  next => exact List.suffix_refl _

theorem applyFunction_perm (closed : List Token × List Pending) :
    ((applyFunction closed).1 ++ (applyFunction closed).2.map Pending.token).Perm
      (closed.1 ++ closed.2.map Pending.token) := by
  unfold applyFunction
  split
  next written f waiting => exact written_perm (.function f) written waiting
  next => exact List.Perm.refl _

/-- Behind a closed group no function waits on top: one that did has been written, and
no other lies directly below it. -/
theorem topAtMost_applyFunction (h : Stacked closed.2) :
    TopAtMost 4 (applyFunction closed).2 := by
  rw [topAtMost_four_iff]
  intro g hHead
  unfold applyFunction at hHead
  split at hHead
  next written f below =>
    have hRests := (List.isChain_cons.1 h).1 _ hHead
    cases hRests.eq_group
  next hNone =>
    obtain ⟨written, waiting⟩ := closed
    cases waiting with
    | nil => cases hHead
    | cons top below =>
        cases hHead
        exact hNone written g below rfl

end Writing

/-! ## The invariant -/

/-- What holds when the tokens `read` have been taken and `next` is to be taken. -/
structure InOrder (read : List Token) (next : Option Token) (y : Yard) : Prop where
  afterOperand_eq : y.afterOperand = Token.endInOperand read
  stacked : Stacked y.waiting
  /-- The parenthesis of a function on top comes next. -/
  top : ∀ f, y.waiting.head? = some (.function f) → next = some .opening
  perm : (y.written ++ y.waiting.map Pending.token).Perm
    (Token.unclosed (Token.resolved false read))

theorem inOrder_start (next : Option Token) : start.InOrder [] next where
  afterOperand_eq := rfl
  stacked := List.isChain_nil
  top f h := by cases h
  perm := List.Perm.refl _

section Step

variable {read : List Token} {t : Token} {next : Option Token} {y z : Yard}

/-- In front of any token but an opening parenthesis no function waits on top. -/
theorem InOrder.topAtMost (h : y.InOrder read (some t)) (hToken : t ≠ .opening) :
    TopAtMost 4 y.waiting := by
  rw [topAtMost_four_iff]
  intro f hHead
  exact hToken (Option.some.inj (h.top f hHead))

/-- What has been read with a token behind it. -/
theorem InOrder.unclosed_append (h : y.InOrder read next) {m : Token}
    (hMeans : t.meanings y.afterOperand = [m]) :
    Token.unclosed (Token.resolved false (read ++ [t])) =
      Token.cancel (Token.unclosed (Token.resolved false read)) m := by
  rw [Token.resolved_append, ← h.afterOperand_eq, hMeans, Token.unclosed_append_singleton]

/-- An operand is written. -/
theorem InOrder.takeOperand (h : y.InOrder read (some t)) (hEnds : t.endsOperand = true)
    (hGroup : t ≠ .opening ∧ t ≠ .closing) (hMeans : t.meanings y.afterOperand = [t])
    (hStep : y.takeOperand t = .ok z) : z.InOrder (read ++ [t]) next := by
  unfold Yard.takeOperand at hStep
  split at hStep
  · cases hStep
  · cases hStep
    refine ⟨?_, h.stacked, ?_, ?_⟩
    · rw [Token.endInOperand_append, hEnds]
    · intro f hHead
      exact absurd hHead (topAtMost_four_iff.1 (h.topAtMost hGroup.1) f)
    · have hCancel (seen : List Token) : Token.cancel seen t = t :: seen := by
        cases t with
        | closing => exact absurd rfl hGroup.2
        | _ => rfl
      rw [h.unclosed_append hMeans, hCancel]
      exact h.perm.cons t

/-- An entry waits in front of the operand that is due. -/
theorem InOrder.wait (h : y.InOrder read (some t)) {p : Pending}
    (hAfter : y.afterOperand = false) (hEnds : t.endsOperand = false)
    (hMeans : t.meanings false = [p.token]) (hTop : ∀ q ∈ y.waiting.head?, p.RestsOn q)
    (hNext : ∀ f, p = .function f → next = some .opening) :
    (y.wait p).InOrder (read ++ [t]) next where
  afterOperand_eq := by
    rw [Token.endInOperand_append, hEnds]
    exact hAfter
  stacked := h.stacked.push hTop
  top f hHead := hNext f (Option.some.inj hHead)
  perm := by
    have hCancel (seen : List Token) : Token.cancel seen p.token = p.token :: seen := by
      cases p <;> rfl
    rw [h.unclosed_append (by rw [hAfter, hMeans]), hCancel]
    exact List.perm_middle.trans (h.perm.cons p.token)

/-- An operator writes what it has to and waits. -/
theorem InOrder.takeBinary {op : BinaryOp} (h : y.InOrder read (some (.binary op)))
    (hAfter : y.afterOperand = true) :
    (y.takeBinary op).InOrder (read ++ [.binary op]) next where
  afterOperand_eq := by
    rw [Token.endInOperand_append]
    rfl
  stacked := by
    have hRest : Stacked (release op y.written y.waiting).2 :=
      List.IsChain.suffix h.stacked (release_suffix op y.written y.waiting)
    apply hRest.push
    intro q hq
    exact Pending.binary_restsOn (release_head? op y.written y.waiting q hq)
  top f hHead := by cases hHead
  perm := by
    have hMeans : (Token.binary op).meanings y.afterOperand = [.binary op] := by
      rw [hAfter]
      cases op <;> rfl
    have hRelease := (release_perm op y.written y.waiting).trans h.perm
    rw [h.unclosed_append hMeans]
    exact List.perm_middle.trans (hRelease.cons (.binary op))

/-- A closing parenthesis writes what waits in its group, and the function of the
group. -/
theorem InOrder.closing (h : y.InOrder read (some .closing))
    {closed : List Token × List Pending} (hClose : closeGroup y.written y.waiting = some closed) :
    InOrder (read ++ [.closing]) next
      ⟨(applyFunction closed).1, (applyFunction closed).2, true⟩ where
  afterOperand_eq := by
    rw [Token.endInOperand_append]
    rfl
  stacked := by
    have hBelow : (applyFunction closed).2 <:+ y.waiting :=
      ((applyFunction_suffix closed).trans (List.suffix_cons .group closed.2)).trans
        (closeGroup_suffix hClose)
    exact List.IsChain.suffix h.stacked hBelow
  top f hHead := by
    have hBelow : Stacked closed.2 := List.IsChain.suffix h.stacked
      ((List.suffix_cons .group closed.2).trans (closeGroup_suffix hClose))
    exact absurd hHead (topAtMost_four_iff.1 (topAtMost_applyFunction hBelow) f)
  perm := by
    have hErased := ((closeGroup_perm hClose).trans h.perm).erase .opening
    rw [List.erase_cons_head] at hErased
    rw [h.unclosed_append (m := .closing) rfl]
    exact (applyFunction_perm closed).trans hErased

/-- **One token keeps the invariant.** -/
theorem InOrder.step (h : y.InOrder read (some t)) (hStep : y.step t next = .ok z) :
    z.InOrder (read ++ [t]) next := by
  cases t with
  | number x => exact h.takeOperand rfl (by simp) rfl hStep
  | constant c => exact h.takeOperand rfl (by simp) rfl hStep
  | function f =>
      rw [Yard.step] at hStep
      split at hStep
      · cases hStep
      next hAfter =>
        split at hStep
        next hNext =>
          cases hStep
          have hTop := h.topAtMost (by simp)
          exact h.wait (eq_false_of_ne_true hAfter) rfl rfl
            (fun q hq => Pending.function_restsOn f (hTop q hq)) (fun _ _ => hNext)
        · cases hStep
  | opening =>
      rw [Yard.step] at hStep
      split at hStep
      · cases hStep
      next hAfter =>
        cases hStep
        exact h.wait (eq_false_of_ne_true hAfter) rfl rfl (fun _ _ => .inl rfl)
          (fun f hGroup => by cases hGroup)
  | closing =>
      rw [Yard.step] at hStep
      split at hStep
      · split at hStep
        next closed hClose =>
          cases hStep
          exact h.closing hClose
        · cases hStep
      · cases hStep
  | negate =>
      rw [Yard.step] at hStep
      split at hStep
      · cases hStep
      next hAfter =>
        cases hStep
        have hTop := h.topAtMost (by simp)
        exact h.wait (eq_false_of_ne_true hAfter) rfl rfl
          (fun q hq => Pending.negate_restsOn (hTop q hq)) (fun f hNegate => by cases hNegate)
  | binary op =>
      have hTop := h.topAtMost (by simp)
      cases hAfter : y.afterOperand with
      | true =>
          simp only [Yard.step, hAfter, if_true] at hStep
          cases hStep
          exact h.takeBinary hAfter
      | false =>
          simp only [Yard.step, hAfter, Bool.false_eq_true, if_false] at hStep
          cases op with
          | sub =>
              cases hStep
              exact h.wait hAfter rfl rfl (fun q hq => Pending.negate_restsOn (hTop q hq))
                (fun f hNegate => by cases hNegate)
          | add =>
              cases hStep
              refine ⟨?_, h.stacked, ?_, ?_⟩
              · rw [Token.endInOperand_append]
                exact hAfter
              · intro f hHead
                exact absurd hHead (topAtMost_four_iff.1 hTop f)
              · rw [Token.resolved_append, ← h.afterOperand_eq, hAfter]
                simpa [Token.meanings] using h.perm
          | _ => cases hStep

end Step

/-! ## Along a run -/

/-- Take the tokens `front` in order, `rest` being still to come. -/
def advance (y : Yard) (rest : List Token) : List Token → Except CalcError Yard
  | [] => .ok y
  | t :: front =>
      match y.step t (front ++ rest).head? with
      | .ok y => advance y rest front
      | .error e => .error e

/-- A run takes the tokens in front and goes on from there, if they can be taken. -/
theorem run_append (y : Yard) (front rest : List Token) :
    y.run (front ++ rest) = (y.advance rest front).bind fun z => z.run rest := by
  induction front generalizing y with
  | nil => rfl
  | cons t front ih =>
      rw [List.cons_append, run, advance]
      cases y.step t (front ++ rest).head? with
      | error e => rfl
      | ok z => exact ih z

/-- **The invariant along a run.** -/
theorem InOrder.advance {read rest front : List Token} {y z : Yard}
    (h : y.InOrder read (front ++ rest).head?) (hReached : y.advance rest front = .ok z) :
    z.InOrder (read ++ front) rest.head? := by
  induction front generalizing read y with
  | nil =>
      cases hReached
      rw [List.append_nil]
      exact h
  | cons t front ih =>
      rw [Yard.advance] at hReached
      split at hReached
      next reached hStep =>
        have hRest := ih (h.step hStep) hReached
        rwa [List.append_assoc] at hRest
      · cases hReached

/-- What holds of what waits and what has been written when the tokens `read` have been
taken and `next` is to be taken. -/
structure Keeps (read : List Token) (next : Option Token) (y : Yard) : Prop where
  /-- Directly on a function lies its group, or the function is on top and its
  parenthesis comes next. -/
  functions : ∀ above f below, y.waiting = above ++ .function f :: below →
    above.getLast? = some .group ∨ (above = [] ∧ next = some .opening)
  /-- Between groups the entries further up are not weaker, and those as strong are
  powers on powers or negations on negations. -/
  segments : ∀ segment, segment <:+: y.waiting → .group ∉ segment →
    segment.Pairwise Pending.StandsAbove
  /-- Each token read has been written or waits, once, but for the signs without
  meaning and the parentheses of closed groups. -/
  tokens : (y.written ++ y.waiting.map Pending.token).Perm
    (Token.unclosed (Token.resolved false read))

theorem InOrder.keeps {read : List Token} {next : Option Token} {y : Yard}
    (h : y.InOrder read next) : y.Keeps read next where
  functions above f below hWaiting := by
    have hStacked := h.stacked
    rw [hWaiting] at hStacked
    rcases hStacked.above_function with rfl | hGroup
    · exact .inr ⟨rfl, h.top f (by rw [hWaiting]; rfl)⟩
    · exact .inl hGroup
  segments _ hSegment hGroup := h.stacked.pairwise hSegment hGroup
  tokens := h.perm

end Yard

/-- **What holds wherever the ordering pass comes to.** Split any list of tokens
anywhere. If the pass takes the tokens in front, it goes on from the state it has come to,
and there each function that waits has its group directly on it or its parenthesis
coming next; between groups the entries that wait never get weaker towards the top, and
only powers and negations wait on their like; and what has been written and what waits
is what has been read, each minus sign in front of an operand as a negation, without
the plus signs there and without the closing parentheses and those they close. -/
theorem ordering_invariant {front rest : List Token} {y : Yard}
    (hReached : Yard.start.advance rest front = .ok y) :
    Yard.start.run (front ++ rest) = y.run rest ∧ y.Keeps front rest.head? := by
  constructor
  · rw [Yard.run_append, hReached]
    rfl
  · exact ((Yard.inOrder_start _).advance hReached).keeps

/-- In `-sin((2)^+-(π*2))` before the second `2`: one group has been closed, two are open,
and the signs in front of operands have become a negation each or nothing. -/
theorem ordering_invariant_open_groups :
    let two : Token := .number (Decimal.toBinary64 ⟨2, 0⟩)
    let front : List Token :=
      [.binary .sub, .function .sin, .opening, .opening, two, .closing, .binary .pow,
        .binary .add, .binary .sub, .opening, .constant .pi, .binary .mul]
    let rest : List Token := [two, .closing, .closing]
    let y : Yard :=
      ⟨[.constant .pi, two],
        [.binary .mul, .group, .negate, .binary .pow, .group, .function .sin, .negate], false⟩
    Yard.start.advance rest front = .ok y ∧
      Yard.start.run (front ++ rest) = y.run rest ∧ y.Keeps front rest.head? ∧
      (y.written ++ y.waiting.map Pending.token).Perm
        [.binary .mul, .constant .pi, .opening, .negate, .binary .pow, two, .opening,
          .function .sin, .negate] := by
  intro two front rest y
  have hReached : Yard.start.advance rest front = .ok y := rfl
  obtain ⟨hRun, hKeeps⟩ := ordering_invariant hReached
  exact ⟨hReached, hRun, hKeeps, hKeeps.tokens⟩

end DeskCalc
