import DeskCalc.Proofs.Numeric.Shortest
import DeskCalc.Proofs.Numeric.Stability

/-!
# Decimals of at most fifteen digits

Around the decimals `count / 10 ^ places` with at most fifteen places and a
count of at most `10 ^ 15` the representable values lie closer together than the
decimals. So two of these decimals never share a nearest magnitude, and the
shortest decimal of that magnitude is the one it came from, without the zeros at
its end.

## Main results

* `decimal_eq_of_place_eq` — a decimal is told by its nearest magnitude.
* `shortest_of_decimal` — and it is the shortest decimal of that magnitude.
-/

namespace DeskCalc

section Decimals

variable {count places i : ℕ}

theorem gapValue_lt_step (hPlaces : places ≤ 15) (hCount : count ≤ 10 ^ 15) :
    gapValue (place (count / 10 ^ places)) < 1 / 10 ^ places := by
  have hSize : (count : ℚ) / 10 ^ places ≤ 10 ^ 15 * (1 / 10 ^ places) := by
    have hCountRat : (count : ℚ) ≤ 10 ^ 15 := by exact_mod_cast hCount
    rw [mul_one_div]
    exact div_le_div_of_nonneg_right hCountRat (by positivity)
  exact gapValue_place_lt (one_le_ten_pow_step hPlaces) hSize (by positivity)

/-- **A decimal is told by its nearest magnitude.** -/
theorem decimal_eq_of_place_eq {other : ℕ} (hPlaces : places ≤ 15) (hCount : count ≤ 10 ^ 15)
    (hPlace : place (other / 10 ^ places) = place (count / 10 ^ places)) : other = count := by
  have hOther : 0 ≤ (other : ℚ) / 10 ^ places := by positivity
  have hThis : 0 ≤ (count : ℚ) / 10 ^ places := by positivity
  have hGap := abs_sub_le_of_place_eq hOther hThis hPlace
  have hClose := lt_of_le_of_lt hGap (gapValue_lt_step hPlaces hCount)
  rw [← Int.cast_natCast other, ← Int.cast_natCast count] at hClose
  exact_mod_cast eq_of_decimals_close hClose

/-- The nearest magnitude lies within half a step. -/
theorem near_of_place (hPlaces : places ≤ 15) (hCount : count ≤ 10 ^ 15)
    (hPlace : place (count / 10 ^ places) = i) :
    2 * |valueAt i - count / 10 ^ places| ≤ 1 / 10 ^ places := by
  have hThis : 0 ≤ (count : ℚ) / 10 ^ places := by positivity
  have hError := abs_sub_valueAt_place_le hThis
  have hGap := gapValue_lt_step hPlaces hCount
  rw [hPlace] at hError hGap
  rw [abs_sub_comm]
  linarith

/-- A decimal of at most fifteen digits has a finite nearest magnitude. -/
theorem place_lt_indexLimit (hCount : count ≤ 10 ^ 15) :
    place (count / 10 ^ places) < indexLimit := by
  obtain ⟨scale, hScale⟩ : ∃ scale, scale = 2045 := ⟨2045, rfl⟩
  have hUnits : unitsAt (scale * 2 ^ 52 + 2 ^ 52) = 2 ^ (52 + scale) := by
    rw [unitsAt_of_scale (by decide) (.inr (Nat.le_refl _)), Nat.pow_add]
  have hLarge : 10 ^ 15 * unitsPerOne ≤ 2 ^ (52 + scale) := by
    have hTen : 10 ^ 15 * unitsPerOne ≤ 2 ^ 50 * unitsPerOne :=
      Nat.mul_le_mul_right _ (by decide)
    have hPow : 2 ^ (50 + unitExponent) ≤ 2 ^ (52 + scale) := by
      apply Nat.pow_le_pow_right (by decide)
      unfold unitExponent
      omega
    rw [two_pow_mul_unitsPerOne] at hTen
    exact Nat.le_trans hTen hPow
  have hValue : (10 : ℚ) ^ 15 ≤ valueAt (scale * 2 ^ 52 + 2 ^ 52) := by
    rw [← hUnits] at hLarge
    have hLargeRat : ((10 ^ 15 * unitsPerOne : ℕ) : ℚ) ≤ unitsAt (scale * 2 ^ 52 + 2 ^ 52) :=
      Nat.cast_le.2 hLarge
    rw [Nat.cast_mul, Nat.cast_pow, Nat.cast_ofNat] at hLargeRat
    rw [valueAt, le_div_iff₀ unitsPerOne_rat_pos]
    exact hLargeRat
  have hSize : (count : ℚ) / 10 ^ places ≤ 10 ^ 15 := by
    have hCountRat : (count : ℚ) ≤ 10 ^ 15 := by exact_mod_cast hCount
    have hOne : (1 : ℚ) ≤ 10 ^ places := one_le_pow₀ (by norm_num)
    exact (div_le_self (Nat.cast_nonneg count) hOne).trans hCountRat
  have hPlace := place_mono (hSize.trans hValue)
  rw [place_valueAt] at hPlace
  unfold indexLimit
  omega

theorem gridValue_eq_decimal (hPlaces : places ≤ unitExponent) (c zeros : ℕ) :
    gridValue (unitExponent - places + zeros) c = (c * 10 ^ zeros : ℕ) / 10 ^ places := by
  have hTen : (10 : ℚ) ^ unitExponent = 10 ^ (unitExponent - places) * 10 ^ places := by
    rw [← pow_add, Nat.sub_add_cancel hPlaces]
  have hPow : (10 : ℚ) ^ (unitExponent - places) ≠ 0 := by positivity
  rw [gridValue, hTen, pow_add, mul_left_comm, mul_div_mul_left _ _ hPow, Nat.cast_mul,
    Nat.cast_pow, Nat.cast_ofNat]

/-- **A decimal is the shortest one of its nearest magnitude**, the zeros at its
end left out. -/
theorem shortest_of_decimal {c zeros : ℕ} (hPlaces : places ≤ 15)
    (hCount : c * 10 ^ zeros ≤ 10 ^ 15) (hDigit : ¬ 10 ∣ c) {m : Magnitude}
    (hPlace : place ((c * 10 ^ zeros : ℕ) / 10 ^ places) = m.index) :
    m.shortest = ⟨(c * 10 ^ (zeros - places) : ℕ), places - zeros⟩ := by
  have hFew : places + 1 ≤ unitExponent := by
    unfold unitExponent
    omega
  obtain ⟨j, hGrid⟩ : ∃ j, unitExponent - places + zeros = j + 1 :=
    ⟨unitExponent - places + zeros - 1, by omega⟩
  have hValue (d k : ℕ) := gridValue_eq_decimal (Nat.le_of_succ_le hFew) d k
  have hThis := hValue c zeros
  rw [hGrid] at hThis
  have hPos : 0 < c * 10 ^ zeros := by
    apply Nat.mul_pos _ (Nat.pow_pos (by decide))
    rcases Nat.eq_zero_or_pos c with rfl | h
    · exact absurd (Nat.dvd_zero 10) hDigit
    · exact h
  have hIndex : m.index ≠ 0 := by
    have := place_pos_of_pos hPlaces hPos
    omega
  have hRead : place (gridValue (j + 1) c) = m.index := by
    rw [hThis, hPlace]
  have hOnly (k d : ℕ) (hCoarse : j + 1 ≤ k) (hSame : place (gridValue k d) = m.index) :
      gridValue k d = gridValue (j + 1) c := by
    obtain ⟨more, hMore⟩ : ∃ more, k = unitExponent - places + more :=
      ⟨k - (unitExponent - places), by omega⟩
    rw [hMore, hValue] at hSame ⊢
    rw [hThis]
    have hOther := decimal_eq_of_place_eq hPlaces hCount (hSame.trans hPlace.symm)
    rw [hOther]
  have hNear : 2 * |m.value - gridValue (j + 1) c| ≤ gridValue (j + 1) 1 := by
    have hHalf := near_of_place hPlaces hCount hPlace
    have hStep : 1 / (10 : ℚ) ^ places ≤ gridValue (j + 1) 1 := by
      have hOne : (1 : ℚ) ≤ 10 ^ zeros := one_le_pow₀ (by norm_num)
      rw [← hGrid, hValue, Nat.one_mul, Nat.cast_pow, Nat.cast_ofNat]
      exact div_le_div_of_nonneg_right hOne (by positivity)
    rw [m.value_eq, hThis]
    exact hHalf.trans hStep
  have hUnits : j + 1 - unitExponent = zeros - places := by omega
  have hRest : unitExponent - (j + 1) = places - zeros := by omega
  rw [Magnitude.shortest_eq_gridDecimal hIndex hDigit hRead hOnly hNear, Magnitude.gridDecimal,
    hUnits, hRest]

end Decimals

end DeskCalc
