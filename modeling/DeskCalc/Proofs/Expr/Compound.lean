import DeskCalc.Proofs.Expr.LeftOperand
import DeskCalc.Proofs.Expr.Scanning

/-!
# The value of compound expressions

A text in parentheses is one operand, whatever it holds. So an operator between
two such texts, a function or a sign in front of one, and the parentheses alone
act on the values of the texts and on nothing else of them. No lexeme reaches
across a parenthesis, the operators inside one are settled where it closes, and
the errors come in the order of the texts.

## Main results

* `WellFormed.exists_tree` — a well-formed text has the value of its tree.
* `evaluate_compound` — the values of compound texts from those of their parts.
-/

namespace DeskCalc

/-- The text in parentheses. -/
def Text.group (s : Text) : Text := '(' :: s ++ [')']

/-- The text can be read and put in order. -/
def WellFormed (s : Text) : Prop :=
  ∃ tokens rpn, tokenize s = .ok tokens ∧ toRpn tokens = .ok rpn

/-- The ways to write an operator. -/
def BinaryOp.writings : BinaryOp → List Text
  | .add => [['+']]
  | .sub => [['-'], ['−']]
  | .mul => [['*'], ['×']]
  | .div => [['/'], ['÷']]
  | .pow => [['^'], ['*', '*']]

/-- The ways to write a function: its name in any mixture of cases, and the sign
of the root. -/
def Function.Written (f : Function) (word : Text) : Prop :=
  (∀ c ∈ word, c.isAlpha = true) ∧ word.map Char.toLower = f.name ∨
    f = .sqrt ∧ word = ['√']

/-! ## Reading -/

theorem BinaryOp.means_writing {op : BinaryOp} {writing : Text} (h : writing ∈ op.writings) :
    Piece.Means writing (.binary op) := by
  have hAll : ∀ w ∈ op.writings, (op = .pow ∧ w = ['*', '*']) ∨
      ∃ c, w = [c] ∧ (c, Token.binary op) ∈ symbols := by
    cases op <;> simp [writings, symbols]
  rcases hAll writing h with ⟨rfl, rfl⟩ | ⟨c, rfl, hSymbol⟩
  · exact .doubleStar
  · exact .symbol hSymbol

theorem Function.Written.means {f : Function} {word : Text} (h : f.Written word) :
    Piece.Means word (.function f) := by
  rcases h with ⟨hLetters, hName⟩ | ⟨rfl, rfl⟩
  · refine .word hLetters ?_
    rw [hName]
    cases f <;> decide
  · exact .symbol (by decide)

theorem Function.means_name (f : Function) : Piece.Means f.name (.function f) := by
  apply Function.Written.means
  left
  cases f <;> simp [Function.name]

theorem Constant.means_symbol (c : Constant) : Piece.Means c.symbol (.constant c) := by
  cases c with
  | pi => exact .symbol (by decide)
  | e => exact .word (by simp [Constant.symbol]) (by decide)

section Tokens

variable {s : Text} {front tokens : List Token}

/-- A text in front of a text in parentheses is read by itself. -/
theorem tokenize_append_group {before : Text} (hFront : tokenize before = .ok front)
    (h : tokenize s = .ok tokens) :
    tokenize (before ++ s.group) = .ok (front ++ (.opening :: tokens ++ [.closing])) := by
  have hOpening : Lexeme.Symbol '(' .opening := by decide
  have hGroup : tokenize s.group = .ok (.opening :: tokens ++ [.closing]) := tokenize_group h
  have hApart : Lexeme.Apart before s.group := hOpening.apart before (s ++ [')'])
  rw [tokenize_append hApart, hFront, hGroup]
  rfl

/-- A text behind a text in parentheses is read by itself. -/
theorem tokenize_group_append {behind : Text} {later : List Token}
    (h : tokenize s = .ok tokens) (hBehind : tokenize behind = .ok later) :
    tokenize (s.group ++ behind) = .ok ((.opening :: tokens ++ [.closing]) ++ later) := by
  have hClosing : Lexeme.Symbol ')' .closing := by decide
  have hGroup : tokenize s.group = .ok (.opening :: tokens ++ [.closing]) := tokenize_group h
  have hApart : Lexeme.Apart s.group behind := hClosing.apart_left ('(' :: s) behind
  rw [tokenize_append hApart, hGroup, hBehind]
  rfl

end Tokens

/-! ## Values -/

/-- A text whose tokens are derived has the value of the derived tree. -/
theorem evaluate_of_derives {s : Text} {tokens : List Token} {e : ExprTree}
    (hTokens : tokenize s = .ok tokens) (h : Derives .sum tokens e) : evaluate s = e.value := by
  rw [evaluate_of_toRpn hTokens h.toRpn_eq, Rpn.evaluate_postorder]

/-- **A well-formed text has the value of its tree.** -/
theorem WellFormed.exists_tree {s : Text} (h : WellFormed s) :
    ∃ tokens e, tokenize s = .ok tokens ∧ Derives .sum tokens e ∧ evaluate s = e.value := by
  obtain ⟨tokens, rpn, hTokens, hOrder⟩ := h
  obtain ⟨e, hDerives, -⟩ := exists_derives_of_toRpn hOrder
  exact ⟨tokens, e, hTokens, hDerives, evaluate_of_derives hTokens hDerives⟩

/-- Two operands with an operator between them are a sum. -/
theorem Derives.sum_of_binary {left right : List Token} {e f : ExprTree}
    (hLeft : Derives .operand left e) (hRight : Derives .operand right f) (op : BinaryOp) :
    Derives .sum (left ++ .binary op :: right) (.binary op e f) := by
  cases op with
  | add => exact .combine (.inl rfl) hLeft.sum_of_operand (.power (.operand hRight))
  | sub => exact .combine (.inr rfl) hLeft.sum_of_operand (.power (.operand hRight))
  | mul => exact .product (.scale (.inl rfl) (.power (.operand hLeft)) (.operand hRight))
  | div => exact .product (.scale (.inr rfl) (.power (.operand hLeft)) (.operand hRight))
  | pow => exact .product (.power (.raise hLeft (.operand hRight)))

/-- **The value of a compound text**, from the values of its parts. Of two
well-formed texts in parentheses with an operator between them the left one is
evaluated first; division by zero and a result that is not finite are errors of
their own. A function and a sign act on the value of the text behind them, and
parentheses alone change nothing. -/
theorem evaluate_compound {a b : Text} (ha : WellFormed a) (hb : WellFormed b) :
    (∀ op : BinaryOp, ∀ writing ∈ op.writings,
      evaluate (a.group ++ writing ++ b.group) = do
        let x ← evaluate a
        let y ← evaluate b
        if op = .div ∧ y.exact = 0 then .error .divisionByZero else finiteOnly (op.result x y)) ∧
    (∀ (f : Function) (word : Text), f.Written word →
      evaluate (word ++ a.group) = do
        let x ← evaluate a
        if f.Domain x.exact then finiteOnly (f.result x) else .error (.outOfDomain f)) ∧
    (∀ sign ∈ ['-', '−'], evaluate (sign :: a.group) = (evaluate a).map fun x => -x) ∧
    evaluate a.group = evaluate a := by
  obtain ⟨left, e, hLeft, hLeftTree, hLeftValue⟩ := ha.exists_tree
  obtain ⟨right, f, hRight, hRightTree, hRightValue⟩ := hb.exists_tree
  have hGroup : Derives .operand (.opening :: left ++ [.closing]) e := .atom (.group hLeftTree)
  refine ⟨?_, ?_, ?_, ?_⟩
  · intro op writing hWriting
    have hOp := (op.means_writing hWriting).tokenize_eq
    have hTokens := tokenize_group_append hLeft (tokenize_append_group hOp hRight)
    rw [← List.append_assoc] at hTokens
    have hOther : Derives .operand (.opening :: right ++ [.closing]) f := .atom (.group hRightTree)
    rw [evaluate_of_derives hTokens (hGroup.sum_of_binary hOther op), hLeftValue, hRightValue]
    rfl
  · intro g word hWritten
    have hTokens := tokenize_append_group hWritten.means.tokenize_eq hLeft
    rw [evaluate_of_derives hTokens (.product (.power (.operand (.atom (.call g hLeftTree))))),
      hLeftValue]
    rfl
  · intro sign hSign
    have hMinus : Piece.Means [sign] (.binary .sub) := BinaryOp.means_writing (by
      simpa [BinaryOp.writings] using hSign)
    have hTokens := tokenize_append_group hMinus.tokenize_eq hLeft
    have hTree := (Derives.minus hGroup).sum_of_operand
    rw [List.singleton_append] at hTokens
    rw [evaluate_of_derives hTokens hTree, hLeftValue, e.value_negate]
  · have hTokens : tokenize a.group = .ok (.opening :: left ++ [.closing]) := tokenize_group hLeft
    rw [evaluate_of_derives hTokens hGroup.sum_of_operand, hLeftValue]

/-- The operator of the dividend does not reach the quotient, and the divisor is
zero once it has been computed. -/
theorem evaluate_compound_zero_divisor :
    WellFormed "-e".toList ∧ WellFormed "e-e".toList ∧
      evaluate "(-e)/(e-e)".toList = .error .divisionByZero := by
  have ha : WellFormed "-e".toList :=
    ⟨[.binary .sub, .constant .e], _, by decide +kernel, rfl⟩
  have hb : WellFormed "e-e".toList :=
    ⟨[.constant .e, .binary .sub, .constant .e], _, by decide +kernel, rfl⟩
  have hDividend : evaluate "-e".toList = .ok (-Constant.e.value) := by decide +kernel
  have hDivisor : evaluate "e-e".toList = .ok (.zero false) := by decide +kernel
  have hExact : (Binary64.zero false).exact = 0 := valueAt_zero
  have hQuotient := (evaluate_compound ha hb).1 .div ['/'] (by decide)
  rw [hDividend, hDivisor] at hQuotient
  exact ⟨ha, hb, hQuotient.trans (if_pos ⟨rfl, hExact⟩)⟩

end DeskCalc
