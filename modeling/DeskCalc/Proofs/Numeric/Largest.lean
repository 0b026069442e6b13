import DeskCalc.Proofs.Numeric.Rounding
import DeskCalc.Proofs.Numeric.Stability

/-!
# The largest magnitude

The largest magnitude is a whole number, so it is its own decimal to any number
of places. Rounding keeps the order, and therefore no finite number is rounded
to a decimal beyond the largest magnitude.

## Main results

* `Display.place_steps_lt` — a rounded number has a finite nearest number.
-/

namespace DeskCalc

/-- The largest magnitude is a whole number. -/
theorem exists_valueAt_largest : ∃ n : ℕ, valueAt (indexLimit - 1) = n := by
  -- the exponent of the top block is named, lest its power be computed
  obtain ⟨scale, hScale⟩ : ∃ scale, scale = 2045 := ⟨2045, rfl⟩
  have hIndex : indexLimit - 1 = scale * 2 ^ 52 + (2 ^ 53 - 1) := by
    unfold indexLimit
    omega
  have hUnits : unitsAt (indexLimit - 1) = (2 ^ 53 - 1) * 2 ^ scale := by
    rw [hIndex]
    exact unitsAt_of_scale (by decide) (.inr (by decide))
  have hExponent : scale = scale - unitExponent + unitExponent := by
    unfold unitExponent
    omega
  have hPow : 2 ^ scale = 2 ^ (scale - unitExponent) * unitsPerOne := by
    rw [two_pow_mul_unitsPerOne, ← hExponent]
  refine ⟨(2 ^ 53 - 1) * 2 ^ (scale - unitExponent), ?_⟩
  rw [valueAt, hUnits, hPow, ← Nat.mul_assoc, Nat.cast_mul _ unitsPerOne,
    mul_div_cancel_right₀ _ (ne_of_gt unitsPerOne_rat_pos)]

theorem Magnitude.value_le_largest (m : Magnitude) : m.value ≤ valueAt (indexLimit - 1) := by
  rw [m.value_eq]
  exact valueAt_strictMono.monotone (Nat.le_sub_one_of_lt m.index_lt)

/-- **A rounded number has a finite nearest number.** -/
theorem Display.place_steps_lt (m : Magnitude) (places : ℕ) :
    place (steps m places / 10 ^ places) < indexLimit := by
  obtain ⟨n, hWhole⟩ := exists_valueAt_largest
  have hPow : (0 : ℚ) < 10 ^ places := by positivity
  have hScaled : m.value * 10 ^ places ≤ valueAt (indexLimit - 1) * 10 ^ places :=
    mul_le_mul_of_nonneg_right m.value_le_largest hPow.le
  have hRound : (steps m places : ℤ) ≤ round (valueAt (indexLimit - 1) * 10 ^ places) := by
    rw [← round_eq_steps]
    exact round_le_round hScaled
  have hSteps : (steps m places : ℚ) ≤ (round (valueAt (indexLimit - 1) * 10 ^ places) : ℚ) := by
    exact_mod_cast hRound
  have hDecimal : (steps m places : ℚ) / 10 ^ places ≤ valueAt (indexLimit - 1) := by
    calc (steps m places : ℚ) / 10 ^ places
        ≤ (round (valueAt (indexLimit - 1) * 10 ^ places) : ℚ) / 10 ^ places :=
          div_le_div_of_nonneg_right hSteps hPow.le
      _ = valueAt (indexLimit - 1) := round_decimal_of_whole hWhole places
  have hPlace := place_mono hDecimal
  rw [place_valueAt] at hPlace
  have hLimit : 0 < indexLimit := by decide
  omega

end DeskCalc
