import Mathlib.Tactic.NormNum
import DeskCalc.Proofs.Numeric.Distance
import DeskCalc.Proofs.Numeric.Rounding

/-!
# Rounding to decimals is stable

A decimal with at most fifteen places is rounded to the nearest magnitude, and
that magnitude to the decimal with as many places. The second decimal is no
further from the magnitude than the first, so it rounds to the same magnitude
again. Where it lies on the other side and the gaps differ, the magnitude is a
power of two: either it is a whole number, and then it is its own decimal, or
its gap is finer than the decimals, and then both decimals are one.

## Main results

* `gapValue_place_lt` — up to fifteen digits, gaps are finer than decimals.
* `place_round_of_place` — the decimal of the nearest magnitude has the place
  of the decimal that it came from.
-/

namespace DeskCalc

theorem ten_pow_lt_unitsPerOne : 10 ^ 15 < unitsPerOne := by
  have hSmall : 10 ^ 15 < 2 ^ 50 := by decide
  have hLarge : 2 ^ 50 ≤ unitsPerOne := Nat.pow_le_pow_right (by decide) (by decide)
  exact Nat.lt_of_lt_of_le hSmall hLarge

/-- **Up to fifteen digits, gaps are finer than decimals**: around values of at
most `10 ^ 15` steps the gap is less than a step. -/
theorem gapValue_place_lt {y step : ℚ} (hStep : 1 ≤ 10 ^ 15 * step)
    (hSize : y ≤ 10 ^ 15 * step) (hSign : 0 ≤ y) : gapValue (place y) < step := by
  have hGap := gapValue_pos (place y)
  by_cases hSmall : place y < 2 ^ 52
  · have hUnit : gapAt (place y) = 1 := gapAt_of_lt (by omega)
    have hPowers : (10 : ℚ) ^ 15 < unitsPerOne := by exact_mod_cast ten_pow_lt_unitsPerOne
    have hFine : 10 ^ 15 * gapValue (place y) < 1 := by
      rw [gapValue, hUnit, Nat.cast_one, mul_one_div, div_lt_one unitsPerOne_rat_pos]
      exact hPowers
    linarith
  · have hUnits : (2 : ℚ) ^ 52 * gapAt (place y) ≤ unitsAt (place y) := by
      exact_mod_cast gapAt_mul_le (Nat.le_of_not_lt hSmall)
    have hValue : 2 ^ 52 * gapValue (place y) ≤ valueAt (place y) := by
      rw [gapValue, valueAt, ← mul_div_assoc]
      exact div_le_div_of_nonneg_right hUnits unitsPerOne_rat_pos.le
    have hError := valueAt_place_sub_le hSign
    linarith

/-- Where the gap below a place is not the one above, the place is worth a power
of two: a whole number, or one whose gap is finer than fifteen decimals. -/
theorem gapValue_fine_or_whole {j : ℕ} (h : gapValue j ≠ gapValue (j + 1)) :
    10 ^ 15 * gapValue (j + 1) < 1 ∨ ∃ n : ℕ, valueAt (j + 1) = n := by
  have hStart : (j + 1) % 2 ^ 52 = 0 := by
    by_contra hInside
    apply h
    rw [gapValue, gapValue, gapAt_succ_of_mod_ne hInside]
  have hOne := unitsPerOne_rat_pos
  obtain ⟨rest, hPlace, hRest, hFull⟩ := exists_scale_rest (j + 1)
  by_cases hScale : scaleAt (j + 1) ≤ 1024
  · left
    have hUnits : 10 ^ 15 * gapAt (j + 1) < unitsPerOne := by
      have hTen : 10 ^ 15 * gapAt (j + 1) < 2 ^ 50 * gapAt (j + 1) :=
        Nat.mul_lt_mul_of_pos_right (by decide) (gapAt_pos _)
      have hPow : 2 ^ 50 * gapAt (j + 1) ≤ unitsPerOne := by
        rw [gapAt, ← Nat.pow_add]
        apply Nat.pow_le_pow_right (by decide)
        unfold unitExponent
        omega
      exact Nat.lt_of_lt_of_le hTen hPow
    have hUnitsRat : (10 : ℚ) ^ 15 * gapAt (j + 1) < unitsPerOne := by exact_mod_cast hUnits
    rw [gapValue, ← mul_div_assoc, div_lt_one hOne]
    exact hUnitsRat
  · right
    have hRestEq : rest = 2 ^ 52 := by omega
    have hValue : unitsAt (j + 1) = 2 ^ 52 * 2 ^ scaleAt (j + 1) := by
      have hUnits := unitsAt_of_scale (Nat.le_of_lt hRest) hFull
      rw [← hPlace, hRestEq] at hUnits
      exact hUnits
    refine ⟨2 ^ (52 + scaleAt (j + 1) - unitExponent), ?_⟩
    have hExponent : 52 + scaleAt (j + 1) - unitExponent + unitExponent =
        52 + scaleAt (j + 1) := by
      unfold unitExponent
      omega
    have hUnits : unitsAt (j + 1) =
        2 ^ (52 + scaleAt (j + 1) - unitExponent) * unitsPerOne := by
      rw [two_pow_mul_unitsPerOne, hExponent, Nat.pow_add, hValue]
    rw [valueAt, hUnits, Nat.cast_mul, mul_div_cancel_right₀ _ (ne_of_gt hOne)]

section Decimals

variable {count places i : ℕ}

theorem one_le_ten_pow_step (hPlaces : places ≤ 15) :
    (1 : ℚ) ≤ 10 ^ 15 * (1 / 10 ^ places) := by
  have hPow : (10 : ℚ) ^ places ≤ 10 ^ 15 := pow_le_pow_right₀ (by norm_num) hPlaces
  rw [mul_one_div, one_le_div (by positivity)]
  exact hPow

/-- Different decimals with the same number of places differ by a step. -/
theorem eq_of_decimals_close {a b : ℤ}
    (h : |(a : ℚ) / 10 ^ places - b / 10 ^ places| < 1 / 10 ^ places) : a = b := by
  have hPow : (0 : ℚ) < 10 ^ places := by positivity
  rw [← sub_div, abs_div, abs_of_pos hPow, div_lt_div_iff_of_pos_right hPow] at h
  have hDifference : |a - b| < 1 := by exact_mod_cast h
  have hZero := Int.abs_lt_one_iff.1 hDifference
  omega

/-- The rounded decimal is no further from a value than another decimal with as
many places. -/
theorem abs_sub_round_le (v : ℚ) (count places : ℕ) :
    |v - (round (v * 10 ^ places) : ℚ) / 10 ^ places| ≤ |v - count / 10 ^ places| := by
  have hPow : (0 : ℚ) < 10 ^ places := by positivity
  have hRound := round_le (v * 10 ^ places) (count : ℤ)
  rw [Int.cast_natCast] at hRound
  have hScaled (k : ℚ) : v - k / 10 ^ places = (v * 10 ^ places - k) / 10 ^ places := by
    field_simp
  rw [hScaled, hScaled, abs_div, abs_div]
  exact div_le_div_of_nonneg_right hRound (abs_nonneg _)

/-- A whole number is its own decimal. -/
theorem round_decimal_of_whole {v : ℚ} {n : ℕ} (hWhole : v = n) (places : ℕ) :
    (round (v * 10 ^ places) : ℚ) / 10 ^ places = v := by
  have hPow : (10 : ℚ) ^ places ≠ 0 := by positivity
  have hExact : round (v * 10 ^ places) = (n * 10 ^ places : ℕ) := by
    rw [hWhole]
    exact_mod_cast round_natCast (n * 10 ^ places)
  rw [hExact, hWhole, Int.cast_natCast, Nat.cast_mul, Nat.cast_pow, Nat.cast_ofNat,
    mul_div_cancel_right₀ _ hPow]

/-- Where the gap is finer than a step, the decimal of the nearest magnitude is
the decimal that it came from. -/
theorem round_decimal_of_fine (hPlaces : places ≤ 15) (hPlace : place (count / 10 ^ places) = i)
    (hFine : 10 ^ 15 * gapValue i < 1) :
    (round (valueAt i * 10 ^ places) : ℚ) / 10 ^ places = count / 10 ^ places := by
  have hSign : 0 ≤ (count : ℚ) / 10 ^ places := by positivity
  have hStep := one_le_ten_pow_step hPlaces
  have hError := abs_sub_valueAt_place_le hSign
  have hCloser := abs_sub_round_le (valueAt i) count places
  rw [hPlace] at hError
  rw [abs_sub_comm (valueAt i) (count / 10 ^ places)] at hCloser
  have hTriangle := abs_sub_le ((round (valueAt i * 10 ^ places) : ℚ) / 10 ^ places) (valueAt i)
    (count / 10 ^ places)
  rw [abs_sub_comm _ (valueAt i), abs_sub_comm (valueAt i) (count / 10 ^ places)] at hTriangle
  have hClose : |(round (valueAt i * 10 ^ places) : ℚ) / 10 ^ places -
      ((count : ℤ) : ℚ) / 10 ^ places| < 1 / 10 ^ places := by
    rw [Int.cast_natCast]
    linarith
  rw [eq_of_decimals_close hClose, Int.cast_natCast]

/-- **The decimal of the nearest magnitude has the place of the decimal that it
came from.** -/
theorem place_round_of_place (hPlaces : places ≤ 15)
    (hPlace : place (count / 10 ^ places) = i) :
    place ((round (valueAt i * 10 ^ places) : ℚ) / 10 ^ places) = i := by
  have hSign : 0 ≤ (count : ℚ) / 10 ^ places := by positivity
  have hCloser := abs_sub_round_le (valueAt i) count places
  rcases le_total ((count : ℚ) / 10 ^ places) (valueAt i) with hBelow | hAbove
  · exact place_of_closer_below hSign hPlace hBelow hCloser
  · by_cases hGap : ∀ j, i = j + 1 → gapValue j = gapValue i
    · exact place_of_closer_above hPlace hAbove hGap hCloser
    · push Not at hGap
      obtain ⟨j, rfl, hDiffer⟩ := hGap
      rcases gapValue_fine_or_whole hDiffer with hFine | ⟨n, hWhole⟩
      · rw [round_decimal_of_fine hPlaces hPlace hFine]
        exact hPlace
      · rw [round_decimal_of_whole hWhole]
        exact place_valueAt (j + 1)

/-- No decimal but zero rounds to zero. -/
theorem place_pos_of_pos (hPlaces : places ≤ 15) (hCount : 0 < count) :
    0 < place (count / 10 ^ places) := by
  have hStep := one_le_ten_pow_step hPlaces
  have hOne : gapValue 0 < 2 / 10 ^ 15 := by
    have hPowers : (10 : ℚ) ^ 15 < unitsPerOne := by exact_mod_cast ten_pow_lt_unitsPerOne
    have hUnit : gapAt 0 = 1 := rfl
    rw [gapValue, hUnit, Nat.cast_one, div_lt_div_iff₀ unitsPerOne_rat_pos (by norm_num)]
    linarith
  have hCountRat : (1 : ℚ) ≤ count := by exact_mod_cast hCount
  have hLeast : 1 / 10 ^ places ≤ (count : ℚ) / 10 ^ places :=
    div_le_div_of_nonneg_right hCountRat (by positivity)
  apply (le_place_succ_iff _ 0).2
  left
  rw [valueAt_succ, valueAt_zero]
  norm_num at *
  linarith

end Decimals

end DeskCalc
