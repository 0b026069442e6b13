import DeskCalc.Proofs.Expr.Evaluation
import DeskCalc.Proofs.Expr.FirstLexeme
import DeskCalc.Proofs.Numeric.Shortest

/-!
# The text of a number is an expression with its value

The text of a finite number is a numeral, with a sign in front if the number is
negative. The numeral is one lexeme and names the magnitude, and the sign is
ordered behind it as a negation.

## Main results

* `evaluate_text` — a finite number is the value of its own text.
-/

namespace DeskCalc

theorem Text.trim_of_not_blank {s : Text} (h : ∀ c ∈ s, isBlank c = false) : s.trim = s := by
  have hFront {t : Text} (ht : ∀ c ∈ t, isBlank c = false) : trimFront t = t := by
    cases t with
    | nil => rfl
    | cons c rest =>
        have hNot : ¬ isBlank c = true := by rw [ht c List.mem_cons_self]; decide
        exact List.dropWhile_cons_of_neg hNot
  have hReverse : ∀ c ∈ s.reverse, isBlank c = false := by
    intro c hc
    exact h c (List.mem_reverse.1 hc)
  rw [trim, hFront h, trimBack, hFront hReverse, List.reverse_reverse]

/-! ## From the text to the value -/

namespace Magnitude

theorem exists_shortest_writeUnsigned (m : Magnitude) :
    ∃ n places, m.shortest = ⟨(n : Nat), places⟩ ∧
      m.shortest.write = Decimal.writeUnsigned n places := by
  obtain ⟨j, c, hShortest, -⟩ := exists_shortest_eq m
  refine ⟨c * 10 ^ (j - unitExponent), unitExponent - j, hShortest, ?_⟩
  rw [hShortest]
  generalize hUnits : c * 10 ^ (j - unitExponent) = units
  have hGrid : gridDecimal j c = ⟨(units : Nat), unitExponent - j⟩ := by
    rw [← hUnits]
    rfl
  have hSign : ¬ ((units : Nat) : Int) < 0 := by omega
  rw [hGrid, Decimal.write]
  simp only [hSign, if_false, Int.natAbs_natCast]

theorem tokenize_shortest (m : Magnitude) :
    tokenize m.shortest.write = .ok [.number (.finite false m)] := by
  obtain ⟨n, places, hShortest, hWrite⟩ := exists_shortest_writeUnsigned m
  obtain ⟨c, rest, hFirst, -⟩ := Decimal.exists_writeUnsigned_eq n places
  have hNonempty : Decimal.writeUnsigned n places ≠ [] := by
    rw [hFirst]
    exact List.cons_ne_nil c rest
  have hToken : (Lexeme.numeral (Decimal.writeUnsigned n places)).token =
      .ok (.number (.finite false m)) := by
    rw [Lexeme.token, Numeral.read?_writeUnsigned, ← hShortest]
    show Except.ok (Token.number m.shortest.toBinary64) = _
    rw [toBinary64_shortest]
  have hNumeric : ∀ d ∈ Decimal.writeUnsigned n places, Numeral.isNumeric d = true := by
    intro d hd
    exact Decimal.isNumeric_of_mem_writeUnsigned hd
  have hLexemes : Lexeme.ofText (Decimal.writeUnsigned n places ++ []) =
      .numeral (Decimal.writeUnsigned n places) :: Lexeme.ofText [] :=
    Lexeme.ofText_numeral hNonempty hNumeric (by simp)
  rw [List.append_nil] at hLexemes
  rw [hWrite, tokenize_of_token hLexemes hToken, tokenize_nil]
  rfl

theorem shortest_not_blank (m : Magnitude) :
    ∀ c ∈ m.shortest.write, Text.isBlank c = false := by
  obtain ⟨n, places, -, hWrite⟩ := exists_shortest_writeUnsigned m
  rw [hWrite]
  intro c hc
  exact Numeral.not_isBlank (Decimal.isNumeric_of_mem_writeUnsigned hc)

end Magnitude

theorem Binary64.text_not_blank (negative : Bool) (m : Magnitude) :
    ∀ c ∈ (finite negative m).text, Text.isBlank c = false := by
  cases negative with
  | false => exact m.shortest_not_blank
  | true =>
      intro c hc
      rcases List.mem_cons.1 hc with rfl | hRest
      · decide
      · exact m.shortest_not_blank c hRest

/-- The text of a finite number is one numeral, behind a minus sign if the number is
negative. -/
theorem Binary64.tokenize_text (negative : Bool) (m : Magnitude) :
    tokenize (finite negative m).text =
      .ok ((if negative then [.binary .sub] else []) ++ [.number (.finite false m)]) := by
  have hTokens := m.tokenize_shortest
  cases negative with
  | false => exact hTokens
  | true =>
      have hText : (Binary64.finite true m).text = '-' :: m.shortest.write := rfl
      have hMinus : Lexeme.Symbol '-' (.binary .sub) := by decide
      rw [hText, hMinus.tokenize_cons, hTokens]
      rfl

/-- **A finite number is the value of its own text.** -/
theorem evaluate_text (negative : Bool) (m : Magnitude) :
    evaluate (Binary64.finite negative m).text = .ok (.finite negative m) := by
  rw [evaluate, analyse, Text.trim_of_not_blank (Binary64.text_not_blank negative m),
    Binary64.tokenize_text]
  cases negative <;> rfl

end DeskCalc
