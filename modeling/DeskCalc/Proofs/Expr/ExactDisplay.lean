import Mathlib.Data.Nat.Factorization.Basic
import DeskCalc.Proofs.Expr.Redisplay
import DeskCalc.Proofs.Numeric.FifteenDigits
import DeskCalc.Proofs.Numeric.Trimmed

/-!
# Fifteen digits are displayed exactly

A number is displayed through the double-precision number nearest to its
rounded value. As long as the rounded value has at most fifteen digits, this
detour changes none of them: the text is the rounded value itself, with the
zeros at the end of its fraction left out.

## Main results

* `write_eq_trimFraction` — what is displayed is the exact rounding.
-/

namespace DeskCalc

/-- The sign in front of a magnitude. -/
def signText (negative : Bool) : Text := if negative then ['-'] else []

theorem point_not_mem_signText (negative : Bool) : '.' ∉ signText negative := by
  cases negative <;> decide

theorem Binary64.text_finite (negative : Bool) (m : Magnitude) :
    (finite negative m).text = signText negative ++ m.shortest.write := by
  cases negative <;> rfl

theorem Binary64.abs_exact (negative : Bool) (m : Magnitude) :
    |(finite negative m).exact| = m.value := by
  cases negative with
  | false => exact abs_of_nonneg m.value_nonneg
  | true =>
      have hAbs := abs_neg m.value
      rw [abs_of_nonneg m.value_nonneg] at hAbs
      exact hAbs

theorem Decimal.write_natCast (n places : ℕ) :
    Decimal.write ⟨(n : ℕ), places⟩ = writeUnsigned n places := by
  have hSign : ¬ ((n : ℕ) : ℤ) < 0 := by omega
  rw [write]
  dsimp only
  rw [if_neg hSign, Int.natAbs_natCast]

theorem Decimal.write_signed (negative : Bool) {n : ℕ} (hn : n ≠ 0) (places : ℕ) :
    Decimal.write ⟨if negative then -(n : ℤ) else n, places⟩ =
      signText negative ++ writeUnsigned n places := by
  cases negative with
  | false => exact write_natCast n places
  | true =>
      have hSign : -(n : ℤ) < 0 := by omega
      rw [if_pos rfl, write]
      dsimp only
      rw [if_pos hSign, Int.natAbs_neg, Int.natAbs_natCast]
      rfl

namespace Display

variable {m : Magnitude} {places : ℕ}

/-- Of a number small enough the display has at most fifteen digits. -/
theorem steps_le (hPlaces : places ≤ 15) (hSize : m.value < 10 ^ (15 - places)) :
    steps m places ≤ 10 ^ 15 := by
  have hPow : (0 : ℚ) < 10 ^ places := by positivity
  have hScaled : m.value * 10 ^ places < 10 ^ 15 := by
    have hMul := mul_lt_mul_of_pos_right hSize hPow
    rwa [← pow_add, Nat.sub_add_cancel hPlaces] at hMul
  have hRound := round_le_add_half (m.value * 10 ^ places)
  rw [round_eq_steps, Int.cast_natCast] at hRound
  have hLess : (steps m places : ℚ) < 10 ^ 15 + 1 := by linarith
  have hLessNat : steps m places < 10 ^ 15 + 1 := by exact_mod_cast hLess
  omega

theorem write_eq_of_steps (negative : Bool) (hSteps : steps m (min places maxPlaces) ≠ 0)
    (hCount : steps m (min places maxPlaces) ≤ 10 ^ 15) :
    write (.finite negative m) places =
      .ok (trimFraction (rounded negative m (min places maxPlaces)).write) := by
  generalize hKept : min places maxPlaces = kept at *
  have hFew : kept ≤ 15 := by
    rw [← hKept]
    exact min_le_right places 15
  obtain ⟨zeros, c, hDigit, hFactor⟩ := Nat.exists_eq_pow_mul_and_not_dvd hSteps 10 (by decide)
  have hProduct : steps m kept = c * 10 ^ zeros := by
    rw [hFactor, Nat.mul_comm]
  have hLimit : place ((steps m kept : ℚ) / 10 ^ kept) < indexLimit :=
    place_lt_indexLimit hCount
  obtain ⟨i, hPlace⟩ : ∃ i, place ((steps m kept : ℚ) / 10 ^ kept) = i := ⟨_, rfl⟩
  rw [hPlace] at hLimit
  have hTrim : trimFraction (rounded negative m kept).write =
      signText negative ++ Decimal.writeUnsigned (c * 10 ^ (zeros - kept)) (kept - zeros) := by
    rw [rounded_eq_steps, Decimal.write_signed negative hSteps, hProduct,
      trimFraction_writeUnsigned (point_not_mem_signText negative) hDigit]
  have hText : (Binary64.finite negative ⟨i, hLimit⟩).text =
      signText negative ++ Decimal.writeUnsigned (c * 10 ^ (zeros - kept)) (kept - zeros) := by
    rw [hProduct] at hCount hPlace
    have hShortest := shortest_of_decimal hFew hCount hDigit (m := ⟨i, hLimit⟩) hPlace
    rw [Binary64.text_finite, hShortest, Decimal.write_natCast]
  rw [hTrim, ← hText]
  rw [← hKept] at hSteps hPlace
  exact write_of_place negative hSteps hPlace hLimit

/-- Zero is written without sign, point or places. -/
theorem trimFraction_write_zero (places : ℕ) :
    trimFraction (Decimal.write ⟨0, places⟩) = ['0'] := by
  have hWrite : Decimal.write ⟨0, places⟩ = Decimal.writeUnsigned (0 * 10 ^ places) places := by
    rw [Nat.zero_mul]
    exact Decimal.write_natCast 0 places
  have hTrim := trimFraction_whole (List.not_mem_nil (a := '.')) 0 places
  have hZero : Digits.write 0 = ['0'] := by
    rw [Digits.write]
    rfl
  rw [List.nil_append, List.nil_append, hZero] at hTrim
  rw [hWrite, hTrim]

/-- **Up to fifteen digits the text displayed is the exact rounding**: the exact
value, rounded to the places asked for with halves away from zero, written
without the zeros at the end of its fraction. -/
theorem write_eq_trimFraction {x : Binary64} (hFinite : x.isFinite = true) (places : ℕ)
    (hSize : |x.exact| < 10 ^ (maxPlaces - min places maxPlaces)) :
    write x places =
        .ok (trimFraction (Decimal.write ⟨roundAway (x.exact * 10 ^ min places maxPlaces),
          min places maxPlaces⟩)) ∧
      (roundAway (x.exact * 10 ^ min places maxPlaces) = 0 → write x places = .ok ['0']) := by
  cases x with
  | infinite negative => cases hFinite
  | nan => cases hFinite
  | finite negative m =>
      have hFew : min places maxPlaces ≤ 15 := min_le_right places 15
      rw [Binary64.abs_exact] at hSize
      have hCount := steps_le hFew hSize
      have hRounded := rounded_eq negative m (min places maxPlaces)
      have hUnits := congrArg Decimal.units (hRounded.symm.trans (rounded_eq_steps _ _ _))
      dsimp only at hUnits
      rw [← hRounded]
      by_cases hSteps : steps m (min places maxPlaces) = 0
      · have hZero : roundAway
            ((Binary64.finite negative m).exact * 10 ^ min places maxPlaces) = 0 := by
          rw [hUnits, hSteps]
          simp
        have hWrite : write (.finite negative m) places = .ok ['0'] := by
          rw [write_finite, if_pos hSteps]
        rw [hRounded, hZero, trimFraction_write_zero]
        exact ⟨hWrite, fun _ => hWrite⟩
      · refine ⟨write_eq_of_steps negative hSteps hCount, ?_⟩
        intro hZero
        rw [hUnits] at hZero
        cases negative <;> simp at hZero <;> exact absurd hZero hSteps

/-- An eighth below zero is halfway between two decimals with two places, and
goes away from zero. -/
theorem write_minus_eighth :
    (Binary64.finite true ⟨1020 * 2 ^ 52, by decide⟩).isFinite = true ∧
      |(Binary64.finite true ⟨1020 * 2 ^ 52, by decide⟩).exact| <
        10 ^ (maxPlaces - min 2 maxPlaces) ∧
      write (.finite true ⟨1020 * 2 ^ 52, by decide⟩) 2 = .ok "-0.13".toList := by
  have hFinite : (Binary64.finite true ⟨1020 * 2 ^ 52, by decide⟩).isFinite = true := rfl
  have hSize : |(Binary64.finite true ⟨1020 * 2 ^ 52, by decide⟩).exact| <
      10 ^ (maxPlaces - min 2 maxPlaces) := by decide +kernel
  have hRounded : roundAway ((Binary64.finite true ⟨1020 * 2 ^ 52, by decide⟩).exact *
      10 ^ min 2 maxPlaces) = -13 := by decide +kernel
  have hTrim : trimFraction (Decimal.write ⟨-13, min 2 maxPlaces⟩) = "-0.13".toList := by
    decide +kernel
  have hWrite := (write_eq_trimFraction hFinite 2 hSize).1
  rw [hRounded, hTrim] at hWrite
  exact ⟨hFinite, hSize, hWrite⟩

end Display

end DeskCalc
