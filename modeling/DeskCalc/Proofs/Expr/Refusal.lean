import DeskCalc.Proofs.Expr.Ordering
import DeskCalc.Proofs.Expr.Redisplay
import DeskCalc.Proofs.Expr.Seam
import DeskCalc.Proofs.Numeric.Largest

/-!
# Which stage refuses a text

A text passes the scan, the ordering pass and the evaluation in turn, and the
first stage that refuses it names the error. Every stage has errors of its own:
`OfScan`, `OfOrder` and `OfValue`. A scan never gives a negating token, and what
the ordering pass accepts is the listing of a tree, so the faults that would
need either are no errors of a text. The display refuses nothing further.

## Main results

* `tokenize_error`, `toRpn_error`, `ExprTree.value_error` — the errors of each
  stage.
* `exists_toRpn_error` — an operand behind a constant is refused in any case.
* `Display.evaluate_eq_error_iff` — a display fails only as the value does.
* `evaluate_refusals` — how a text is refused, stage by stage.
-/

namespace DeskCalc

namespace CalcError

/-- The scan met a lexeme without a meaning. -/
def OfScan : CalcError → Prop
  | invalidCharacter _ => True
  | unknownWord _ => True
  | invalidNumeral _ => True
  | _ => False

/-- A number on the way to the value is missing. -/
def OfValue : CalcError → Prop
  | divisionByZero => True
  | outOfDomain _ => True
  | notFinite => True
  | _ => False

end CalcError

/-- The faults that no text has: they take a negating token, or an ordered
expression that is not the listing of a tree. -/
def GrammarFault.hidden : List GrammarFault :=
  [.negationAfterOperand, .parenthesisInRpn, .notOneValue, .missingOperand]

/-- The ordering pass met a token that does not go on from those before it. -/
def CalcError.OfOrder : CalcError → Prop
  | grammar fault => fault ∉ GrammarFault.hidden
  | unbalancedParentheses => True
  | _ => False

section Stages

variable {ε α β : Type} {error : ε}

/-- A computation in two stages fails in the first or in the second. -/
theorem error_of_bind_eq_error {first : Except ε α} {second : α → Except ε β}
    (h : first >>= second = .error error) :
    first = .error error ∨ ∃ x, first = .ok x ∧ second x = .error error := by
  cases first with
  | error other =>
      cases h
      exact .inl rfl
  | ok x => exact .inr ⟨x, rfl, h⟩

variable {f : α → Except ε β} {xs : List α}

/-- A pass over a list fails as one of its elements does. -/
theorem exists_error_of_mapM (h : xs.mapM f = .error error) : ∃ x ∈ xs, f x = .error error := by
  induction xs with
  | nil => cases h
  | cons x xs ih =>
      rw [List.mapM_cons] at h
      rcases error_of_bind_eq_error h with hFirst | ⟨y, -, hRest⟩
      · exact ⟨x, List.mem_cons_self, hFirst⟩
      · rcases error_of_bind_eq_error hRest with hTail | ⟨ys, -, hList⟩
        · obtain ⟨z, hMem, hError⟩ := ih hTail
          exact ⟨z, List.mem_cons_of_mem x hMem, hError⟩
        · cases hList

/-- What a pass over a list gives comes from its elements. -/
theorem exists_of_mem_mapM {ys : List β} {y : β} (h : xs.mapM f = .ok ys) (hMem : y ∈ ys) :
    ∃ x ∈ xs, f x = .ok y := by
  induction xs generalizing ys with
  | nil =>
      cases h
      cases hMem
  | cons x xs ih =>
      rw [List.mapM_cons] at h
      obtain ⟨first, hFirst, hRest⟩ := exists_of_bind_eq_ok h
      obtain ⟨rest, hTail, hList⟩ := exists_of_bind_eq_ok hRest
      cases hList
      rcases List.mem_cons.1 hMem with rfl | hMem
      · exact ⟨x, List.mem_cons_self, hFirst⟩
      · obtain ⟨z, hz, hToken⟩ := ih hTail hMem
        exact ⟨z, List.mem_cons_of_mem x hz, hToken⟩

/-- A pass over a list succeeds only on each of its elements. -/
theorem exists_ok_of_mapM {ys : List β} {x : α} (h : xs.mapM f = .ok ys) (hMem : x ∈ xs) :
    ∃ y, f x = .ok y := by
  induction xs generalizing ys with
  | nil => cases hMem
  | cons first xs ih =>
      rw [List.mapM_cons] at h
      obtain ⟨y, hFirst, hRest⟩ := exists_of_bind_eq_ok h
      obtain ⟨rest, hTail, -⟩ := exists_of_bind_eq_ok hRest
      rcases List.mem_cons.1 hMem with rfl | hMem
      · exact ⟨y, hFirst⟩
      · exact ih hTail hMem

end Stages

/-! ## The scan -/

theorem Lexeme.token_error {l : Lexeme} {error : CalcError} (h : l.token = .error error) :
    error.OfScan := by
  cases l with
  | doubleStar => cases h
  | word letters =>
      rw [token] at h
      split at h
      · cases h
      · cases h
        trivial
  | numeral run =>
      rw [token] at h
      split at h
      · cases h
      · cases h
        trivial
  | symbol c =>
      rw [token] at h
      split at h
      · cases h
      · cases h
        trivial

/-- No lexeme means the negation; a minus sign is read as a subtraction. -/
theorem Lexeme.token_ne_negate (l : Lexeme) : l.token ≠ .ok .negate := by
  intro h
  cases l with
  | doubleStar => cases h
  | word letters =>
      rw [token] at h
      split at h
      next t hWord =>
        cases h
        unfold tokenOfWord? at hWord
        split at hWord
        · cases hWord
        · split at hWord
          · cases hWord
          · obtain ⟨f, -, hToken⟩ := Option.map_eq_some_iff.1 hWord
            cases hToken
      next => cases h
  | numeral run =>
      rw [token] at h
      split at h
      · cases h
      · cases h
  | symbol c =>
      rw [token] at h
      split at h
      next t hSymbol =>
        cases h
        unfold tokenOfSymbol? at hSymbol
        split at hSymbol <;> cases hSymbol
      next => cases h

/-- **The errors of the scan.** -/
theorem tokenize_error {s : Text} {error : CalcError} (h : tokenize s = .error error) :
    error.OfScan := by
  obtain ⟨l, -, hToken⟩ := exists_error_of_mapM h
  exact Lexeme.token_error hToken

theorem negate_not_mem_tokenize {s : Text} {tokens : List Token} (h : tokenize s = .ok tokens) :
    .negate ∉ tokens := by
  intro hMem
  obtain ⟨l, -, hToken⟩ := exists_of_mem_mapM h hMem
  exact l.token_ne_negate hToken

/-- Exactly the blank texts have no token at all. -/
theorem tokenize_eq_ok_nil_iff {s : Text} :
    tokenize s = .ok [] ↔ ∀ c ∈ s, Text.isBlank c = true := by
  rw [← Lexeme.ofText_eq_nil_iff, tokenize]
  constructor
  · intro h
    cases hLexemes : Lexeme.ofText s with
    | nil => rfl
    | cons l rest =>
        rw [hLexemes, List.mapM_cons] at h
        obtain ⟨first, -, hRest⟩ := exists_of_bind_eq_ok h
        obtain ⟨tail, -, hList⟩ := exists_of_bind_eq_ok hRest
        cases hList
  · intro h
    rw [h]
    rfl

/-! ## The ordering pass -/

namespace Balance

variable {b : Balance} {tokens : List Token} {error : CalcError}

theorem step_error {t : Token} {next : Option Token} (hToken : t ≠ .negate)
    (h : b.step t next = .error error) : error.OfOrder := by
  cases t with
  | negate => exact absurd rfl hToken
  | _ =>
      simp only [step, fail] at h
      repeat' split at h
      all_goals cases h <;> simp [CalcError.OfOrder, GrammarFault.hidden]

theorem run_error (hTokens : .negate ∉ tokens) (h : b.run tokens = .error error) :
    error.OfOrder := by
  induction tokens generalizing b with
  | nil => cases h
  | cons t rest ih =>
      have hFirst : t ≠ .negate := (List.ne_of_not_mem_cons hTokens).symm
      have hRest : .negate ∉ rest := List.not_mem_of_not_mem_cons hTokens
      rw [run] at h
      cases hStep : b.step t rest.head? with
      | error first =>
          rw [hStep] at h
          cases h
          exact step_error hFirst hStep
      | ok next =>
          rw [hStep] at h
          exact ih hRest h

theorem finish_error (h : b.finish = .error error) : error.OfOrder := by
  unfold finish at h
  split at h
  · cases h
    simp [CalcError.OfOrder, GrammarFault.hidden]
  · split at h
    · cases h
    · cases h
      trivial

end Balance

/-- **The errors of the ordering pass** on a list that holds some tokens and no
negation among them. -/
theorem toRpn_error {tokens : List Token} {error : CalcError} (hNonempty : tokens ≠ [])
    (hTokens : .negate ∉ tokens) (h : toRpn tokens = .error error) : error.OfOrder := by
  have hVerdict : Balance.verdict tokens = .error error := by
    rw [← toRpn_map_unit, h]
    rfl
  rw [Balance.verdict, if_neg (by simpa using hNonempty)] at hVerdict
  rcases error_of_bind_eq_error hVerdict with hRun | ⟨last, -, hFinish⟩
  · exact Balance.run_error hTokens hRun
  · exact Balance.finish_error hFinish

/-- The token can only be the first of an operand. -/
def Token.StartsOperand : Token → Prop
  | .binary _ => False
  | .closing => False
  | _ => True

namespace Yard

theorem exists_step_error {t : Token} (hOperand : t.StartsOperand) (written : List Token)
    (waiting : List Pending) (next : Option Token) :
    ∃ error, step ⟨written, waiting, true⟩ t next = .error error := by
  cases t with
  | binary op => cases hOperand
  | closing => cases hOperand
  | _ => exact ⟨_, rfl⟩

/-- No run gets past an operand behind a constant. -/
theorem exists_run_error (y : Yard) (before : List Token) (c : Constant) {t : Token}
    (hOperand : t.StartsOperand) (behind : List Token) :
    ∃ error, y.run (before ++ .constant c :: t :: behind) = .error error := by
  induction before generalizing y with
  | nil =>
      obtain ⟨written, waiting, afterOperand⟩ := y
      cases afterOperand with
      | true => exact ⟨_, rfl⟩
      | false =>
          obtain ⟨error, hStep⟩ :=
            exists_step_error hOperand (.constant c :: written) waiting behind.head?
          refine ⟨error, ?_⟩
          show run ⟨.constant c :: written, waiting, true⟩ (t :: behind) = _
          rw [run, hStep]
  | cons u before ih =>
      rw [List.cons_append, run]
      cases y.step u (before ++ .constant c :: t :: behind).head? with
      | error error => exact ⟨error, rfl⟩
      | ok next => exact ih next

end Yard

/-- **An operand behind a constant is refused**, whatever stands around them. -/
theorem exists_toRpn_error (before : List Token) (c : Constant) {t : Token}
    (hOperand : t.StartsOperand) (behind : List Token) :
    ∃ error, toRpn (before ++ .constant c :: t :: behind) = .error error := by
  obtain ⟨error, hRun⟩ := Yard.start.exists_run_error before c hOperand behind
  refine ⟨error, ?_⟩
  rw [toRpn, if_neg (by simp), hRun]
  rfl

/-! ## The value -/

theorem finiteOnly_error {x : Binary64} {error : CalcError} (h : finiteOnly x = .error error) :
    error.OfValue := by
  unfold finiteOnly at h
  split at h
  · cases h
  · cases h
    trivial

/-- **The errors of a tree.** -/
theorem ExprTree.value_error {e : ExprTree} {error : CalcError} (h : e.value = .error error) :
    error.OfValue := by
  induction e with
  | number x => exact finiteOnly_error h
  | constant c => exact finiteOnly_error h
  | negate operand ih =>
      rcases error_of_bind_eq_error h with hOperand | ⟨x, -, hLast⟩
      · exact ih hOperand
      · exact finiteOnly_error hLast
  | call f argument ih =>
      rcases error_of_bind_eq_error h with hArgument | ⟨x, -, hLast⟩
      · exact ih hArgument
      · split at hLast
        · exact finiteOnly_error hLast
        · cases hLast
          trivial
  | binary op left right ihLeft ihRight =>
      rcases error_of_bind_eq_error h with hLeft | ⟨x, -, hBehind⟩
      · exact ihLeft hLeft
      · rcases error_of_bind_eq_error hBehind with hRight | ⟨y, -, hLast⟩
        · exact ihRight hRight
        · split at hLast
          · cases hLast
            trivial
          · exact finiteOnly_error hLast

/-- An ordered expression has a finite value or an error of the evaluation. -/
theorem Rpn.evaluate_of_toRpn {tokens rpn : List Token} (h : toRpn tokens = .ok rpn) :
    (∃ x, x.isFinite = true ∧ evaluate rpn = .ok x) ∨
      ∃ error : CalcError, error.OfValue ∧ evaluate rpn = .error error := by
  obtain ⟨e, -, rfl⟩ := exists_derives_of_toRpn h
  rw [evaluate_postorder]
  cases hValue : e.value with
  | ok x => exact .inl ⟨x, ExprTree.isFinite_of_value hValue, rfl⟩
  | error error => exact .inr ⟨error, ExprTree.value_error hValue, rfl⟩

/-! ## The whole way -/

section Passage

variable {s : Text} {tokens rpn : List Token} {error : CalcError}

theorem evaluate_of_tokenize_error (h : tokenize s = .error error) :
    evaluate s = .error error := by
  rw [evaluate_eq, h]
  rfl

theorem evaluate_of_toRpn_error (hTokens : tokenize s = .ok tokens)
    (h : toRpn tokens = .error error) : evaluate s = .error error := by
  rw [evaluate_eq, hTokens]
  show toRpn tokens >>= Rpn.evaluate = _
  rw [h]
  rfl

theorem evaluate_of_toRpn (hTokens : tokenize s = .ok tokens) (h : toRpn tokens = .ok rpn) :
    evaluate s = Rpn.evaluate rpn := by
  rw [evaluate_eq, hTokens]
  show toRpn tokens >>= Rpn.evaluate = _
  rw [h]
  rfl

/-- Where the error of a text comes from. -/
theorem evaluate_error_cases (h : evaluate s = .error error) :
    tokenize s = .error error ∨
      (∃ tokens, tokenize s = .ok tokens ∧ toRpn tokens = .error error) ∨ error.OfValue := by
  rw [evaluate_eq] at h
  rcases error_of_bind_eq_error h with hScan | ⟨tokens, hTokens, hBehind⟩
  · exact .inl hScan
  · rcases error_of_bind_eq_error hBehind with hOrder | ⟨rpn, hRpn, hValue⟩
    · exact .inr (.inl ⟨tokens, hTokens, hOrder⟩)
    · rcases Rpn.evaluate_of_toRpn hRpn with ⟨x, -, hOk⟩ | ⟨last, hLast, hError⟩
      · rw [hOk] at hValue
        cases hValue
      · rw [hError] at hValue
        cases hValue
        exact .inr (.inr hLast)

/-- The error of a text is that of a blank one or belongs to one of the
stages. -/
theorem evaluate_error (h : evaluate s = .error error) :
    ((∀ c ∈ s, Text.isBlank c = true) ∧ error = .emptyInput) ∨
      error.OfScan ∨ error.OfOrder ∨ error.OfValue := by
  rcases evaluate_error_cases h with hScan | ⟨tokens, hTokens, hOrder⟩ | hValue
  · exact .inr (.inl (tokenize_error hScan))
  · by_cases hEmpty : tokens = []
    · subst hEmpty
      cases hOrder
      exact .inl ⟨tokenize_eq_ok_nil_iff.1 hTokens, rfl⟩
    · have hNegate := negate_not_mem_tokenize hTokens
      exact .inr (.inr (.inl (toRpn_error hEmpty hNegate hOrder)))
  · exact .inr (.inr (.inr hValue))

/-- Only a blank text counts as empty. -/
theorem evaluate_eq_emptyInput_iff :
    evaluate s = .error .emptyInput ↔ ∀ c ∈ s, Text.isBlank c = true := by
  constructor
  · intro h
    rcases evaluate_error h with ⟨hBlank, -⟩ | hScan | hOrder | hValue
    · exact hBlank
    · exact hScan.elim
    · exact hOrder.elim
    · exact hValue.elim
  · intro h
    exact evaluate_of_toRpn_error (tokenize_eq_ok_nil_iff.2 h) rfl

/-- A fault that a text has is not hidden. -/
theorem not_hidden_of_evaluate {fault : GrammarFault}
    (h : evaluate s = .error (.grammar fault)) : fault ∉ GrammarFault.hidden := by
  rcases evaluate_error h with ⟨-, hEmpty⟩ | hScan | hOrder | hValue
  · cases hEmpty
  · exact hScan.elim
  · exact hOrder
  · exact hValue.elim

/-- A value is a finite number. -/
theorem isFinite_of_evaluate {x : Binary64} (h : evaluate s = .ok x) : x.isFinite = true := by
  rw [evaluate_eq] at h
  obtain ⟨tokens, -, hOrder⟩ := exists_of_bind_eq_ok h
  obtain ⟨rpn, hRpn, hLast⟩ := exists_of_bind_eq_ok hOrder
  rcases Rpn.evaluate_of_toRpn hRpn with ⟨y, hFinite, hValue⟩ | ⟨error, -, hValue⟩
  · rw [hValue] at hLast
    cases hLast
    exact hFinite
  · rw [hValue] at hLast
    cases hLast

end Passage

namespace Display

/-- **Every finite number can be displayed**, as the text of some number. -/
theorem exists_write_eq {x : Binary64} (hFinite : x.isFinite = true) (places : ℕ) :
    ∃ negative m, write x places = .ok (Binary64.finite negative m).text := by
  obtain ⟨negative, m, rfl⟩ := Binary64.exists_eq_finite hFinite
  by_cases hSteps : steps m (min places maxPlaces) = 0
  · refine ⟨false, .zero, ?_⟩
    rw [write_finite, if_pos hSteps, text_zero]
  · exact ⟨negative, _, write_of_place negative hSteps rfl (place_steps_lt m _)⟩

theorem isFinite_of_write {x : Binary64} {places : ℕ} {shown : Text}
    (h : write x places = .ok shown) : x.isFinite = true := by
  cases x with
  | finite negative m => rfl
  | infinite negative => cases h
  | nan => cases h

/-- **A display fails exactly as the value does.** -/
theorem evaluate_eq_error_iff {s : Text} {places : ℕ} {error : CalcError} :
    evaluate s places = .error error ↔ DeskCalc.evaluate s = .error error := by
  constructor
  · intro h
    rcases error_of_bind_eq_error h with hValue | ⟨x, hValue, hWrite⟩
    · exact hValue
    · obtain ⟨negative, m, hShown⟩ := exists_write_eq (isFinite_of_evaluate hValue) places
      rw [hShown] at hWrite
      cases hWrite
  · intro h
    rw [evaluate, h]
    rfl

end Display

/-- **How a text is refused.** A blank text is empty; of any other the first
stage that refuses it names the error, and behind the last stage stands a finite
value or an error of the evaluation. The hidden faults are those with the four
wordings, and a display refuses nothing more. -/
theorem evaluate_refusals (s : Text) :
    (evaluate s = .error .emptyInput ↔ ∀ c ∈ s, Text.isBlank c = true) ∧
    (∀ error, tokenize s = .error error → evaluate s = .error error ∧ error.OfScan) ∧
    (∀ tokens error, tokenize s = .ok tokens → tokens ≠ [] → toRpn tokens = .error error →
      evaluate s = .error error ∧ error.OfOrder) ∧
    (∀ tokens rpn, tokenize s = .ok tokens → toRpn tokens = .ok rpn →
      (∃ x, x.isFinite = true ∧ evaluate s = .ok x) ∨
        ∃ error, error.OfValue ∧ evaluate s = .error error) ∧
    (∀ fault, evaluate s = .error (.grammar fault) →
      fault.message ∉ ["moins unaire après une valeur", "parenthèse inattendue en RPN",
        "expression invalide", "opérande manquant"]) ∧
    ∀ places error, Display.evaluate s places = .error error ↔ evaluate s = .error error := by
  refine ⟨evaluate_eq_emptyInput_iff, ?_, ?_, ?_, ?_, ?_⟩
  · intro error h
    exact ⟨evaluate_of_tokenize_error h, tokenize_error h⟩
  · intro tokens error hTokens hNonempty h
    exact ⟨evaluate_of_toRpn_error hTokens h,
      toRpn_error hNonempty (negate_not_mem_tokenize hTokens) h⟩
  · intro tokens rpn hTokens h
    rw [evaluate_of_toRpn hTokens h]
    exact Rpn.evaluate_of_toRpn h
  · intro fault h
    have hShown := not_hidden_of_evaluate h
    revert hShown
    cases fault <;> decide
  · intro places error
    exact Display.evaluate_eq_error_iff

/-- A character without a meaning wins over the parenthesis left of it that
nothing opens, and a sum without its second term is refused behind the scan. -/
theorem evaluate_refusals_first_fault :
    (tokenize "π)@".toList = .error (.invalidCharacter '@') ∧
      evaluate "π)@".toList = .error (.invalidCharacter '@')) ∧
    (tokenize "π+".toList = .ok [.constant .pi, .binary .add] ∧
      toRpn [.constant .pi, .binary .add] = .error (.grammar .incomplete) ∧
      evaluate "π+".toList = .error (.grammar .incomplete)) := by
  have hScan : tokenize "π)@".toList = .error (.invalidCharacter '@') := by
    have hLexemes : Lexeme.ofText "π)@".toList = [.symbol 'π', .symbol ')', .symbol '@'] := by
      decide +kernel
    rw [tokenize, hLexemes]
    rfl
  have hTokens : tokenize "π+".toList = .ok [.constant .pi, .binary .add] := by
    have hLexemes : Lexeme.ofText "π+".toList = [.symbol 'π', .symbol '+'] := by
      decide +kernel
    rw [tokenize, hLexemes]
    rfl
  have hOrder : toRpn [.constant .pi, .binary .add] = .error (.grammar .incomplete) := rfl
  obtain ⟨-, hFirst, -⟩ := evaluate_refusals "π)@".toList
  obtain ⟨-, -, hSecond, -⟩ := evaluate_refusals "π+".toList
  exact ⟨⟨hScan, (hFirst _ hScan).1⟩, hTokens, hOrder,
    (hSecond _ _ hTokens (by simp) hOrder).1⟩

end DeskCalc
