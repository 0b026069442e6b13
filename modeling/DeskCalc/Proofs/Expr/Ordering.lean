import DeskCalc.Proofs.Expr.Recognition

/-!
# The ordering pass computes the postorder of the derivation

The pass is followed along a derivation. Before a phrase is read, the entry on
top of those that wait is at most as strong as `Phrase.limit`, so that no
operator of the phrase writes it. Behind the phrase, part of its listing has
been written and the rest still waits in entries at least as strong as
`Phrase.floor` (`Completes`), so that the next looser operator writes them all.

## Main results

* `Derives.reads` — what a run over a derived phrase leaves behind.
* `Derives.tree_unique` — the grammar is unambiguous.
* `toRpn_eq_ok_iff` — the lists that can be ordered are the derivable ones, and
  the result is the postorder of the tree.
-/

namespace DeskCalc

/-- The strength of the weakest operator that a phrase may leave waiting. -/
def Phrase.floor : Phrase → Nat
  | .sum => 1
  | .product => 2
  | .power => 3
  | .operand => 4
  | .atom => 5

/-- The strength of the strongest entry that may wait in front of a phrase. -/
def Phrase.limit : Phrase → Nat
  | .sum => 0
  | .product => 1
  | .power => 3
  | .operand => 4
  | .atom => 4

/-- The entry on top of those that wait is at most as strong as `limit`. -/
def TopAtMost (limit : Nat) (waiting : List Pending) : Prop :=
  ∀ p ∈ waiting.head?, p.strength ≤ limit

theorem TopAtMost.mono {low high : Nat} {waiting : List Pending} (h : TopAtMost low waiting)
    (hLe : low ≤ high) : TopAtMost high waiting := by
  intro p hp
  have hLow := h p hp
  omega

theorem BinaryOp.strength_pos (op : BinaryOp) : 0 < op.strength := by
  cases op <;> decide

/-- An entry precedes the weaker operators, and those as strong as itself that
group to the left. -/
theorem Pending.precedes_iff {p : Pending} {op : BinaryOp} :
    p.precedes op = true ↔
      op.strength < p.strength ∨ (op.groupsRight = false ∧ op.strength = p.strength) := by
  have hOp := op.strength_pos
  cases p with
  | group =>
      have hStrength : Pending.group.strength = 0 := rfl
      have hNot : Pending.group.precedes op = false := rfl
      rw [hStrength, hNot]
      constructor
      · intro h
        cases h
      · intro h
        omega
  | _ =>
      cases hGroups : op.groupsRight with
      | true => simp [precedes, hGroups]
      | false => simp [precedes, hGroups, Nat.le_iff_lt_or_eq]

/-- Below a bound that an operator exceeds, or reaches and groups to the right,
nothing precedes it. -/
theorem TopAtMost.not_precedes {limit : Nat} {waiting : List Pending} {op : BinaryOp}
    (h : TopAtMost limit waiting)
    (hLimit : limit < op.strength ∨ (op.groupsRight = true ∧ limit = op.strength)) :
    ∀ p ∈ waiting.head?, p.precedes op = false := by
  intro p hp
  have hStrength := h p hp
  rw [← Bool.not_eq_true, Pending.precedes_iff]
  rintro (hLess | ⟨hGroups, hEqual⟩)
  · omega
  · rcases hLimit with hLimit | ⟨hRight, -⟩
    · omega
    · rw [hRight] at hGroups
      cases hGroups

namespace Yard

variable {written : List Token} {kept waiting : List Pending}

/-- An operator writes the entries that precede it and stops at the first that
does not. -/
theorem release_append {op : BinaryOp} (hKept : ∀ p ∈ kept, p.precedes op = true)
    (hTop : ∀ p ∈ waiting.head?, p.precedes op = false) :
    release op written (kept ++ waiting) =
      ((kept.map Pending.token).reverse ++ written, waiting) := by
  induction kept generalizing written with
  | nil =>
      cases waiting with
      | nil => rfl
      | cons p rest => simp [release, hTop p rfl]
  | cons p kept ih =>
      have hHead : p.precedes op = true := hKept p (by simp)
      simp only [List.cons_append, release, hHead, if_true]
      have hRest : ∀ q ∈ kept, q.precedes op = true := by
        intro q hq
        exact hKept q (List.mem_cons_of_mem p hq)
      rw [ih hRest]
      simp

/-- A closing parenthesis writes the entries on top of its group. -/
theorem closeGroup_append (hKept : ∀ p ∈ kept, 1 ≤ p.strength) :
    closeGroup written (kept ++ .group :: waiting) =
      some ((kept.map Pending.token).reverse ++ written, waiting) := by
  induction kept generalizing written with
  | nil => rfl
  | cons p kept ih =>
      have hRest : ∀ q ∈ kept, 1 ≤ q.strength := by
        intro q hq
        exact hKept q (List.mem_cons_of_mem p hq)
      have hHead : 1 ≤ p.strength := hKept p (by simp)
      cases p with
      | group => exact absurd hHead (by decide)
      | _ =>
          simp only [List.cons_append, closeGroup]
          rw [ih hRest]
          simp

/-- No function applies to a group that none waits for. -/
theorem applyFunction_of_topAtMost (h : TopAtMost 4 waiting) :
    applyFunction (written, waiting) = (written, waiting) := by
  cases waiting with
  | nil => rfl
  | cons p rest =>
      cases p with
      | function f => exact absurd (h _ rfl) (show ¬ 5 ≤ 4 by decide)
      | _ => rfl

/-- The tree `e` has been completed as an operand on top of the state `base`:
part of its listing has been written and the rest waits in entries at least as
strong as `floor`. -/
def Completes (floor : Nat) (e : ExprTree) (base y : Yard) : Prop :=
  ∃ done kept, y = ⟨done.reverse ++ base.written, kept ++ base.waiting, true⟩ ∧
    done ++ kept.map Pending.token = e.postorder ∧ ∀ p ∈ kept, floor ≤ p.strength

theorem Completes.mono {low high : Nat} {e : ExprTree} {base y : Yard}
    (h : Completes high e base y) (hLe : low ≤ high) : Completes low e base y := by
  obtain ⟨done, kept, hState, hListing, hStrength⟩ := h
  refine ⟨done, kept, hState, hListing, ?_⟩
  intro p hp
  have hHigh := hStrength p hp
  omega

/-- A written operand is complete. -/
theorem completes_written {e : ExprTree} (floor : Nat) (written : List Token)
    (waiting : List Pending) :
    Completes floor e ⟨written, waiting, false⟩
      ⟨e.postorder.reverse ++ written, waiting, true⟩ :=
  ⟨e.postorder, [], rfl, by simp, by simp⟩

/-- An operator that all entries of its left operand precede writes that
operand. -/
theorem Completes.takeBinary {floor : Nat} {e : ExprTree} {base y : Yard} {op : BinaryOp}
    (h : Completes floor e base y)
    (hFloor : op.strength < floor ∨ (op.groupsRight = false ∧ op.strength = floor))
    (hTop : ∀ p ∈ base.waiting.head?, p.precedes op = false) :
    y.takeBinary op =
      ⟨e.postorder.reverse ++ base.written, .binary op :: base.waiting, false⟩ := by
  obtain ⟨done, kept, rfl, hListing, hStrength⟩ := h
  have hKept : ∀ p ∈ kept, p.precedes op = true := by
    intro p hp
    have hAtLeast := hStrength p hp
    rw [Pending.precedes_iff]
    by_cases hLess : op.strength < p.strength
    · exact .inl hLess
    · rcases hFloor with hFloor | ⟨hGroups, hFloor⟩
      · omega
      · exact .inr ⟨hGroups, by omega⟩
  rw [Yard.takeBinary, release_append hKept hTop, ← hListing]
  simp

/-- A closing parenthesis writes the operand inside its group. -/
theorem Completes.closeGroup {e : ExprTree} {written : List Token} {waiting : List Pending}
    {y : Yard} (h : Completes 1 e ⟨written, .group :: waiting, false⟩ y) :
    Yard.closeGroup y.written y.waiting = some (e.postorder.reverse ++ written, waiting) := by
  obtain ⟨done, kept, rfl, hListing, hStrength⟩ := h
  rw [closeGroup_append hStrength, ← hListing]
  simp

/-- The last operand of a waiting entry completes the tree of that entry, the
tokens `first` having been written for the operands before it. -/
theorem Completes.outer {floor high : Nat} {p : Pending} {e f : ExprTree}
    {written : List Token} {waiting : List Pending} {y : Yard} (first : List Token)
    (h : Completes high f ⟨first.reverse ++ written, p :: waiting, false⟩ y)
    (hTree : e.postorder = first ++ f.postorder ++ [p.token])
    (hHigh : floor ≤ high) (hFloor : floor ≤ p.strength) :
    Completes floor e ⟨written, waiting, false⟩ y := by
  obtain ⟨done, kept, rfl, hListing, hStrength⟩ := h
  refine ⟨first ++ done, kept ++ [p], ?_, ?_, ?_⟩
  · simp
  · simp [hTree, ← hListing]
  · intro q hq
    rcases List.mem_append.1 hq with hq | hq
    · exact Nat.le_trans hHigh (hStrength q hq)
    · rw [List.mem_singleton.1 hq]
      exact hFloor

/-- Behind its left operand an operator waits for the right one. -/
theorem Completes.run_binary {floor : Nat} {e : ExprTree} {written : List Token}
    {waiting : List Pending} {y : Yard} {op : BinaryOp} {rest : List Token}
    (h : Completes floor e ⟨written, waiting, false⟩ y)
    (hFloor : op.strength < floor ∨ (op.groupsRight = false ∧ op.strength = floor))
    (hTop : ∀ p ∈ waiting.head?, p.precedes op = false) :
    y.run (.binary op :: rest) =
      run ⟨e.postorder.reverse ++ written, .binary op :: waiting, false⟩ rest := by
  have hTake := h.takeBinary hFloor hTop
  obtain ⟨done, kept, rfl, -, -⟩ := h
  simp only [run, step, if_true, hTake]

/-- A closing parenthesis completes the inside of its group as an operand. -/
theorem Completes.run_closing {e : ExprTree} {written : List Token} {waiting : List Pending}
    {y : Yard} {rest : List Token}
    (h : Completes 1 e ⟨written, .group :: waiting, false⟩ y) :
    y.run (.closing :: rest) =
      run ⟨(applyFunction (e.postorder.reverse ++ written, waiting)).1,
        (applyFunction (e.postorder.reverse ++ written, waiting)).2, true⟩ rest := by
  have hClose := h.closeGroup
  obtain ⟨done, kept, rfl, -, -⟩ := h
  simp only [run, step, if_true, hClose]

/-- In front of the entries `waiting`, a run over `tokens` completes `e`. -/
def Reads (floor : Nat) (tokens : List Token) (e : ExprTree) (waiting : List Pending) : Prop :=
  ∀ written rest, ∃ y, Completes floor e ⟨written, waiting, false⟩ y ∧
    run ⟨written, waiting, false⟩ (tokens ++ rest) = y.run rest

section Reads

variable {floor left right : Nat} {tokens leftTokens rightTokens : List Token}
variable {e f : ExprTree}

theorem Reads.mono {low high : Nat} (h : Reads high tokens e waiting) (hLe : low ≤ high) :
    Reads low tokens e waiting := by
  intro written rest
  obtain ⟨y, hCompletes, hRun⟩ := h written rest
  exact ⟨y, hCompletes.mono hLe, hRun⟩

/-- A group is read as the operand inside it, for no function waits for it. -/
theorem Reads.group (h : Reads 1 tokens e (.group :: waiting)) (hTop : TopAtMost 4 waiting) :
    Reads floor (.opening :: tokens ++ [.closing]) e waiting := by
  intro written rest
  obtain ⟨y, hInner, hRun⟩ := h written (.closing :: rest)
  have hApply : applyFunction (e.postorder.reverse ++ written, waiting) =
      (e.postorder.reverse ++ written, waiting) := applyFunction_of_topAtMost hTop
  refine ⟨_, completes_written _ written waiting, ?_⟩
  calc
    _ = run ⟨written, .group :: waiting, false⟩ (tokens ++ .closing :: rest) := by
      simp [run, step, wait]
    _ = y.run (.closing :: rest) := hRun
    _ = _ := by rw [hInner.run_closing, hApply]

/-- A group behind a function is read as the application of the function. -/
theorem Reads.call {g : Function} (h : Reads 1 tokens e (.group :: .function g :: waiting)) :
    Reads floor (.function g :: .opening :: tokens ++ [.closing]) (.call g e) waiting := by
  intro written rest
  obtain ⟨y, hInner, hRun⟩ := h written (.closing :: rest)
  refine ⟨_, completes_written _ written waiting, ?_⟩
  calc
    _ = run ⟨written, .group :: .function g :: waiting, false⟩
        (tokens ++ .closing :: rest) := by
      simp [run, step, wait]
    _ = y.run (.closing :: rest) := hRun
    _ = _ := by
      rw [hInner.run_closing]
      simp [applyFunction, ExprTree.postorder]

/-- An operand behind a sign that negates is read as its negation. -/
theorem Reads.negate {sign : Token} (hSign : sign = .binary .sub ∨ sign = .negate)
    (h : Reads 4 tokens e (.negate :: waiting)) :
    Reads 4 (sign :: tokens) (.negate e) waiting := by
  intro written rest
  obtain ⟨y, hInner, hRun⟩ := h written rest
  refine ⟨y, hInner.outer [] rfl (Nat.le_refl 4) (Nat.le_refl 4), ?_⟩
  rw [← hRun]
  rcases hSign with rfl | rfl
  · rfl
  · rfl

/-- Two operands with an operator between them are read as the operation, if
the operator is looser than the left one and not looser than the right one. -/
theorem Reads.binary {op : BinaryOp} {limit : Nat}
    (hLeft : Reads left leftTokens e waiting)
    (hRight : Reads right rightTokens f (.binary op :: waiting))
    (hLoose : op.strength < left ∨ (op.groupsRight = false ∧ op.strength = left))
    (hTight : op.strength ≤ right)
    (hTop : TopAtMost limit waiting)
    (hLimit : limit < op.strength ∨ (op.groupsRight = true ∧ limit = op.strength)) :
    Reads op.strength (leftTokens ++ .binary op :: rightTokens) (.binary op e f) waiting := by
  intro written rest
  obtain ⟨y, hCompletesLeft, hRunLeft⟩ := hLeft written (.binary op :: (rightTokens ++ rest))
  obtain ⟨z, hCompletesRight, hRunRight⟩ := hRight (e.postorder.reverse ++ written) rest
  refine ⟨z, hCompletesRight.outer e.postorder rfl hTight (Nat.le_refl _), ?_⟩
  rw [List.append_assoc, List.cons_append, hRunLeft,
    hCompletesLeft.run_binary hLoose (hTop.not_precedes hLimit), hRunRight]

end Reads

end Yard

/-- The entry just put on top bounds what waits. -/
theorem topAtMost_cons (p : Pending) (waiting : List Pending) :
    TopAtMost p.strength (p :: waiting) := by
  rintro q ⟨⟩
  exact Nat.le_refl _

/-- **A run over a derived phrase completes its tree** and leaves all that
waited before as it was. -/
theorem Derives.reads {phrase : Phrase} {tokens : List Token} {e : ExprTree}
    (h : Derives phrase tokens e) {waiting : List Pending}
    (hTop : TopAtMost phrase.limit waiting) : Yard.Reads phrase.floor tokens e waiting := by
  induction h generalizing waiting with
  | number x => exact fun written rest => ⟨_, Yard.completes_written _ written waiting, rfl⟩
  | constant c => exact fun written rest => ⟨_, Yard.completes_written _ written waiting, rfl⟩
  | group inner ih => exact (ih (topAtMost_cons .group waiting)).group hTop
  | call f argument ih => exact (ih (topAtMost_cons .group (.function f :: waiting))).call
  | atom inner ih => exact (ih hTop).mono (by decide)
  | minus inner ih => exact (ih (topAtMost_cons .negate waiting)).negate (.inl rfl)
  | negate inner ih => exact (ih (topAtMost_cons .negate waiting)).negate (.inr rfl)
  | plus inner ih => exact ih hTop
  | operand inner ih => exact (ih (hTop.mono (by decide))).mono (by decide)
  | raise left right ihLeft ihRight =>
      have hRight := ihRight (topAtMost_cons (.binary .pow) waiting)
      exact (ihLeft (hTop.mono (by decide))).binary hRight (by decide) (by decide) hTop
        (by decide)
  | power inner ih => exact (ih (hTop.mono (by decide))).mono (by decide)
  | @scale op _ _ _ _ hOp left right ihLeft ihRight =>
      have hRight := ihRight ((topAtMost_cons (.binary op) waiting).mono (by
        rcases hOp with rfl | rfl <;> decide))
      rcases hOp with rfl | rfl
      · exact (ihLeft hTop).binary hRight (by decide) (by decide) hTop (by decide)
      · exact (ihLeft hTop).binary hRight (by decide) (by decide) hTop (by decide)
  | product inner ih => exact (ih (hTop.mono (by decide))).mono (by decide)
  | @combine op _ _ _ _ hOp left right ihLeft ihRight =>
      have hRight := ihRight ((topAtMost_cons (.binary op) waiting).mono (by
        rcases hOp with rfl | rfl <;> decide))
      rcases hOp with rfl | rfl
      · exact (ihLeft hTop).binary hRight (by decide) (by decide) hTop (by decide)
      · exact (ihLeft hTop).binary hRight (by decide) (by decide) hTop (by decide)

/-- A derivable list is ordered into the postorder of its tree. -/
theorem Derives.toRpn_eq {tokens : List Token} {e : ExprTree} (h : Derives .sum tokens e) :
    toRpn tokens = .ok e.postorder := by
  have hTop : TopAtMost 0 [] := by rintro p ⟨⟩
  obtain ⟨y, ⟨done, kept, hState, hListing, hStrength⟩, hRun⟩ := h.reads hTop [] []
  have hNonempty : tokens.isEmpty = false := by
    cases tokens with
    | nil => simp [hState, Yard.run] at hRun
    | cons t rest => rfl
  have hNoGroup : Pending.group ∉ kept := fun hp => absurd (hStrength _ hp) (by decide)
  have hStart : Yard.start.run tokens = .ok y := by
    simpa [Yard.start, Yard.run] using hRun
  subst hState
  simp [toRpn, hNonempty, hStart, bind, Except.bind, Yard.finish, hNoGroup, hListing]

/-- The grammar is unambiguous: no list has derivations with different
trees. -/
theorem Derives.tree_unique {tokens : List Token} {e f : ExprTree}
    (he : Derives .sum tokens e) (hf : Derives .sum tokens f) : e = f := by
  have hListing := he.toRpn_eq
  rw [hf.toRpn_eq] at hListing
  exact ExprTree.postorder_injective (Except.ok.inj hListing).symm

/-- What can be ordered is derivable, and is ordered into the postorder of its
tree. -/
theorem exists_derives_of_toRpn {tokens rpn : List Token} (h : toRpn tokens = .ok rpn) :
    ∃ e, Derives .sum tokens e ∧ rpn = e.postorder := by
  have hVerdict : Balance.verdict tokens = .ok () := by
    rw [← toRpn_map_unit, h]
    rfl
  obtain ⟨e, hDerives⟩ := exists_derives_of_verdict hVerdict
  rw [hDerives.toRpn_eq] at h
  exact ⟨e, hDerives, (Except.ok.inj h).symm⟩

/-- **Exactly the derivable lists can be ordered**, and the result is the
postorder of the derivation's tree. -/
theorem toRpn_eq_ok_iff (tokens rpn : List Token) :
    toRpn tokens = .ok rpn ↔ ∃ e, Derives .sum tokens e ∧ rpn = e.postorder := by
  constructor
  · intro h
    exact exists_derives_of_toRpn h
  · rintro ⟨e, hDerives, rfl⟩
    exact hDerives.toRpn_eq

end DeskCalc
