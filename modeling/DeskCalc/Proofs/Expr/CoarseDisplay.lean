import DeskCalc.Proofs.Convert.DecimalAmount

/-!
# Large numbers are displayed without loss

Where the representable numbers lie at least a decimal step apart, rounding to
decimals moves a number by half of its spacing at most and so back to itself.
The two places where that might go wrong are harmless. A number on which half a
step ends between two neighbours has a spacing of one whole step, and is then a
whole number of steps. Below a power of two the spacing is half as wide, but a
power of two with this spacing is a whole number and not rounded at all.

## Main results

* `place_round_of_coarse` — a place with a coarse gap survives the rounding.
* `Display.coarse_reads_back` — the text of a coarsely spaced number names that
  number.
-/

namespace DeskCalc

/-- How much further from zero the next number lies, the one behind the largest
being where it would be. -/
def Binary64.spacing : Binary64 → ℚ
  | .finite _ m => valueAt (m.index + 1) - valueAt m.index
  | _ => 0

theorem Binary64.spacing_finite (negative : Bool) (m : Magnitude) :
    (finite negative m).spacing = gapValue m.index := by
  rw [spacing, valueAt_succ, add_sub_cancel_left]

/-- A place is worth a whole number of its gaps. -/
theorem exists_valueAt_eq_mul (i : ℕ) : ∃ n : ℕ, valueAt i = n * gapValue i := by
  refine ⟨i - scaleAt i * 2 ^ 52, ?_⟩
  rw [valueAt, unitsAt, gapValue, Nat.cast_mul, mul_div_assoc]

section Decimals

variable {places i : ℕ}

/-- A whole number of steps is its own decimal. -/
theorem round_decimal_of_steps {v : ℚ} {n : ℕ} (hWhole : v * 10 ^ places = n) :
    (round (v * 10 ^ places) : ℚ) / 10 ^ places = v := by
  have hPow : (10 : ℚ) ^ places ≠ 0 := by positivity
  rw [hWhole, round_natCast, Int.cast_natCast, ← hWhole, mul_div_cancel_right₀ _ hPow]

/-- Rounding to decimals moves a value by half a step at most. -/
theorem abs_sub_round_le_half (v : ℚ) (places : ℕ) :
    2 * |v - (round (v * 10 ^ places) : ℚ) / 10 ^ places| ≤ 1 / 10 ^ places := by
  have hPow : (0 : ℚ) < 10 ^ places := by positivity
  have hRound := abs_sub_round (v * 10 ^ places)
  have hScaled : v - (round (v * 10 ^ places) : ℚ) / 10 ^ places =
      (v * 10 ^ places - round (v * 10 ^ places)) / 10 ^ places := by
    field_simp
  rw [hScaled, abs_div, abs_of_pos hPow, ← mul_div_assoc]
  exact div_le_div_of_nonneg_right (by linarith) hPow.le

/-- Inside half a gap on either side, where the gaps agree, a value has the place
it lies around. -/
theorem place_of_near {y : ℚ} (hGap : ∀ j, i = j + 1 → gapValue j = gapValue i)
    (hNear : 2 * |valueAt i - y| < gapValue i) : place y = i := by
  have hSides := abs_lt.1 (show |valueAt i - y| < gapValue i / 2 by linarith)
  apply le_antisymm
  · apply (place_le_iff y i).2
    left
    rw [valueAt_succ]
    linarith
  · cases i with
    | zero => exact Nat.zero_le _
    | succ j =>
        apply (le_place_succ_iff y j).2
        left
        have hSame := hGap j rfl
        linarith

/-- **A place with a coarse gap survives the rounding to decimals.** -/
theorem place_round_of_coarse (hPlaces : places ≤ 15) (hCoarse : 1 / 10 ^ places ≤ gapValue i) :
    place ((round (valueAt i * 10 ^ places) : ℚ) / 10 ^ places) = i := by
  have hPow : (0 : ℚ) < 10 ^ places := by positivity
  by_cases hWhole : ∃ n : ℕ, valueAt i * 10 ^ places = n
  · obtain ⟨n, hWhole⟩ := hWhole
    rw [round_decimal_of_steps hWhole, place_valueAt]
  · have hStrict : 1 / 10 ^ places < gapValue i := by
      refine lt_of_le_of_ne hCoarse fun hStep => hWhole ?_
      obtain ⟨n, hValue⟩ := exists_valueAt_eq_mul i
      refine ⟨n, ?_⟩
      rw [hValue, ← hStep, mul_assoc, one_div_mul_cancel hPow.ne', mul_one]
    have hGap : ∀ j, i = j + 1 → gapValue j = gapValue i := by
      rintro j rfl
      by_contra hDiffer
      rcases gapValue_fine_or_whole hDiffer with hFine | ⟨n, hValue⟩
      · have hStep := one_le_ten_pow_step hPlaces
        linarith
      · apply hWhole
        refine ⟨n * 10 ^ places, ?_⟩
        rw [hValue]
        push_cast
        rfl
    exact place_of_near hGap (lt_of_le_of_lt (abs_sub_round_le_half _ places) hStrict)

end Decimals

namespace Display

/-- **The text of a coarsely spaced number names that number.** Where the next
number of larger magnitude lies at least one step of the last decimal place
away, what is displayed reads back as the very number, and an expression
that consists of it has that value. -/
theorem coarse_reads_back {x : Binary64} (hFinite : x.isFinite = true) (places : ℕ)
    (hCoarse : 1 / 10 ^ min places maxPlaces ≤ x.spacing) :
    ∃ shown, write x places = .ok shown ∧ Amount.read? shown = some x ∧
      DeskCalc.evaluate shown = .ok x := by
  cases x with
  | infinite negative => cases hFinite
  | nan => cases hFinite
  | finite negative m =>
      have hFew : min places maxPlaces ≤ 15 := min_le_right places 15
      rw [Binary64.spacing_finite] at hCoarse
      have hPlace := place_round_of_coarse hFew hCoarse
      rw [← m.value_eq, round_eq_steps, Int.cast_natCast] at hPlace
      -- Rounded to no step at all it would have the place of zero, where the gap is fine.
      have hSteps : steps m (min places maxPlaces) ≠ 0 := by
        intro hZero
        rw [hZero, Nat.cast_zero, zero_div, ← valueAt_zero, place_valueAt] at hPlace
        have hFine := gapValue_place_lt (y := 0) (one_le_ten_pow_step hFew) (by positivity) le_rfl
        rw [← valueAt_zero, place_valueAt, hPlace] at hFine
        linarith
      exact ⟨_, write_of_place negative hSteps hPlace m.index_lt, Amount.read?_text negative m,
        evaluate_text negative m⟩

/-- A tenth above `10 ^ 15` the next number is an eighth away: its own writing has
ten places more than are displayed. -/
theorem coarse_reads_back_tenth :
    let x : Binary64 := .finite false ⟨0x430c6bf526340001, by decide⟩
    x.isFinite = true ∧ 1 / 10 ^ min 10 maxPlaces ≤ x.spacing ∧
      write x 10 = .ok "1000000000000000.1".toList ∧
        Amount.read? "1000000000000000.1".toList = some x := by
  intro x
  have hCoarse : 1 / 10 ^ min 10 maxPlaces ≤ x.spacing := by decide +kernel
  obtain ⟨shown, hWrite, hRead, -⟩ := coarse_reads_back (x := x) rfl 10 hCoarse
  have hShown : (write x 10).toOption = some "1000000000000000.1".toList := by decide +kernel
  rw [hWrite] at hShown
  cases hShown
  exact ⟨rfl, hCoarse, hWrite, hRead⟩

end Display

end DeskCalc
