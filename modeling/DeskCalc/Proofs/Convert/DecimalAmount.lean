import DeskCalc.Proofs.Convert.AmountText
import DeskCalc.Proofs.Expr.ExactDisplay

/-!
# A written decimal is an amount

Amounts are read by the general rules for signs, points and powers of ten. A
decimal in positional writing, with a sign in front or without, is one of them
and names the number nearest to its value. So the text of a finite number, being
the shortest decimal that reads back, names that number.

## Main results

* `Amount.read?_signed` — a written decimal is read at its value.
* `Amount.read?_text` — a finite number is read from its own text.
-/

namespace DeskCalc

/-- The shortest decimal of a magnitude has the place of that magnitude. -/
theorem Magnitude.place_shortest (m : Magnitude) : place m.shortest.magnitude = m.index := by
  obtain ⟨j, c, hShortest, hPlace⟩ := m.exists_shortest_eq
  rw [hShortest, gridDecimal_magnitude, hPlace]

namespace Amount

theorem sign_signText (negative : Bool) : Sign (signText negative) negative := by
  cases negative with
  | false => exact .missing
  | true => exact .minus

/-- **A written decimal is read at its value**, under the sign in front of it. -/
theorem read?_signed (negative : Bool) (n places : ℕ) :
    read? (signText negative ++ Decimal.writeUnsigned n places) =
      some (.ofPlace negative (place (n / 10 ^ places))) := by
  have hNumeric : ∀ c ∈ Decimal.writeUnsigned n places, Numeral.isNumeric c = true :=
    fun c hc => Decimal.isNumeric_of_mem_writeUnsigned hc
  have hFirst : ∀ c ∈ (Decimal.writeUnsigned n places).head?, Numeral.isNumeric c = true :=
    fun c hc => hNumeric c (List.mem_of_mem_head? hc)
  have hNoRest : ∀ c, ([] : Text).head? = some c → Numeral.isNumeric c = false := by simp
  obtain ⟨hTake, hDrop⟩ := Text.takeWhile_dropWhile_run hNumeric hNoRest
  rw [List.append_nil] at hTake hDrop
  have hValue : ((n : ℤ).natAbs : ℚ) * 10 ^ (0 - (places : ℤ)) = n / 10 ^ places := by
    rw [Int.natAbs_natCast, zero_sub, zpow_neg, zpow_natCast, div_eq_mul_inv]
  rw [read?_eq_some_iff_parts, (sign_signText negative).splitSign_append hFirst]
  dsimp only
  rw [hTake, hDrop]
  refine ⟨⟨n, places⟩, 0, Numeral.read?_writeUnsigned n places, rfl, ?_⟩
  rw [scaled_eq, hValue]

/-- **A finite number is read from its own text.** -/
theorem read?_text (negative : Bool) (m : Magnitude) :
    read? (Binary64.finite negative m).text = some (.finite negative m) := by
  obtain ⟨n, places, hShortest, hWrite⟩ := m.exists_shortest_writeUnsigned
  have hPlace := m.place_shortest
  rw [hShortest, Decimal.magnitude, Int.natAbs_natCast] at hPlace
  rw [Binary64.text_finite, hWrite, read?_signed, hPlace,
    Binary64.ofPlace_of_lt negative m.index_lt]

end Amount

end DeskCalc
