import DeskCalc.Proofs.Expr.ReadBack
import DeskCalc.Proofs.Expr.Refusal

/-!
# A displayed value as the left operand

Every operator is looser than a sign and a number. So an operand in front of an
operator is taken as a whole whether it stands in parentheses or not, and that
is settled before a single token behind the operator has been read. A displayed
value, its sign included, is such an operand, and neither its digits nor the
operator fuse with what stands next to them. Whatever is written behind the
operator, sense or nonsense, the outcome is the one with the value in
parentheses.

## Main results

* `toRpn_group_binary` — parentheses around a left operand do not count.
* `Lexeme.Symbol.tokenize_append_cons` — a text cut in front of an operator.
* `evaluate_group_text` — the value of a number's text in parentheses, an
  operator and any rest.
-/

namespace DeskCalc

/-! ## The order of tokens -/

theorem BinaryOp.strength_lt_operand (op : BinaryOp) : op.strength < Phrase.operand.floor := by
  cases op <;> decide

/-- An operand in front of an operator is written, and the operator waits. -/
theorem Derives.run_binary {tokens : List Token} {e : ExprTree}
    (h : Derives .operand tokens e) (op : BinaryOp) (rest : List Token) :
    Yard.start.run (tokens ++ .binary op :: rest) =
      Yard.run ⟨e.postorder.reverse, [.binary op], false⟩ rest := by
  have hTop : TopAtMost Phrase.operand.limit [] := by rintro p ⟨⟩
  have hNone : ∀ p ∈ ([] : List Pending).head?, p.precedes op = false := by rintro p ⟨⟩
  obtain ⟨y, hCompletes, hRun⟩ := h.reads hTop [] (.binary op :: rest)
  calc
    _ = y.run (.binary op :: rest) := hRun
    _ = Yard.run ⟨e.postorder.reverse ++ [], [.binary op], false⟩ rest :=
      hCompletes.run_binary (.inl op.strength_lt_operand) hNone
    _ = _ := by rw [List.append_nil]

/-- **Parentheses around a left operand do not count**, whatever follows. -/
theorem toRpn_group_binary {tokens : List Token} {e : ExprTree}
    (h : Derives .operand tokens e) (op : BinaryOp) (rest : List Token) :
    toRpn ((.opening :: tokens ++ [.closing]) ++ .binary op :: rest) =
      toRpn (tokens ++ .binary op :: rest) := by
  have hGroup : Derives .operand (.opening :: tokens ++ [.closing]) e :=
    .atom (.group h.sum_of_operand)
  have hRun : Yard.start.run ((.opening :: tokens ++ [.closing]) ++ .binary op :: rest) =
      Yard.start.run (tokens ++ .binary op :: rest) := by
    rw [hGroup.run_binary, h.run_binary]
  unfold toRpn
  rw [hRun]
  simp

/-! ## The seams -/

namespace Lexeme.Symbol

variable {c : Char} {t : Token}

/-- **The tokens in front of such a character are those of the text in front of
it**, whatever follows. -/
theorem tokenize_append_cons (h : Symbol c t) {s : Text} {tokens : List Token}
    (hTokens : tokenize s = .ok tokens) (rest : Text) :
    tokenize (s ++ c :: rest) = (tokenize rest).map (tokens ++ t :: ·) := by
  rw [tokenize_append (h.apart s rest), hTokens, h.tokenize_cons]
  cases tokenize rest with
  | ok later => rfl
  | error error => rfl

end Lexeme.Symbol

/-- The tokens of a text in parentheses. -/
theorem tokenize_group {s : Text} {tokens : List Token} (h : tokenize s = .ok tokens) :
    tokenize ('(' :: s ++ [')']) = .ok (.opening :: tokens ++ [.closing]) := by
  have hOpening : Lexeme.Symbol '(' .opening := by decide
  have hClosing : Lexeme.Symbol ')' .closing := by decide
  rw [List.cons_append, hOpening.tokenize_cons, hClosing.tokenize_append_cons h, tokenize_nil]
  rfl

/-! ## Displayed values -/

/-- The text of a finite number is an operand. -/
theorem exists_operand_of_text (negative : Bool) (m : Magnitude) :
    ∃ tokens e, tokenize (Binary64.finite negative m).text = .ok tokens ∧
      Derives .operand tokens e := by
  have hNumber : Derives .operand [.number (.finite false m)] (.number (.finite false m)) :=
    .atom (.number _)
  cases negative with
  | false => exact ⟨_, _, m.tokenize_shortest, hNumber⟩
  | true =>
      have hMinus : Lexeme.Symbol '-' (.binary .sub) := by decide
      have hSigned := hMinus.tokenize_cons m.shortest.write
      rw [m.tokenize_shortest] at hSigned
      exact ⟨_, _, hSigned, .minus hNumber⟩

/-- **A number's text in front of an operator may stand in parentheses**: with
any rest behind the operator the outcome is the same, value or error. -/
theorem evaluate_group_text (negative : Bool) (m : Magnitude) {c : Char} {op : BinaryOp}
    (hSymbol : Lexeme.Symbol c (.binary op)) (rest : Text) :
    evaluate (('(' :: (Binary64.finite negative m).text ++ [')']) ++ c :: rest) =
      evaluate ((Binary64.finite negative m).text ++ c :: rest) := by
  obtain ⟨tokens, e, hTokens, hOperand⟩ := exists_operand_of_text negative m
  have hGroup := tokenize_group hTokens
  rw [evaluate_eq, evaluate_eq, hSymbol.tokenize_append_cons hGroup,
    hSymbol.tokenize_append_cons hTokens]
  cases tokenize rest with
  | error error => rfl
  | ok later =>
      show toRpn _ >>= Rpn.evaluate = toRpn _ >>= Rpn.evaluate
      rw [toRpn_group_binary hOperand]

/-- What is displayed is the text of a finite number. -/
theorem Display.exists_text_of_evaluate {s shown : Text} {places : Nat}
    (h : evaluate s places = .ok shown) :
    ∃ negative m, shown = (Binary64.finite negative m).text := by
  obtain ⟨x, hValue, hWrite⟩ := exists_of_bind_eq_ok h
  obtain ⟨negative, m, hText⟩ := exists_write_eq (isFinite_of_evaluate hValue) places
  rw [hText] at hWrite
  exact ⟨negative, m, (Except.ok.inj hWrite).symm⟩

end DeskCalc
