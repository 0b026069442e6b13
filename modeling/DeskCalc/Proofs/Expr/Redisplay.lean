import DeskCalc.Proofs.Expr.ReadBack
import DeskCalc.Proofs.Numeric.Stability

/-!
# A displayed result displays as itself

What is displayed is the text of a number, so it evaluates to that number; and
the number is stable under the rounding that a display makes. A result can
therefore be taken up as the next expression without ever changing.

## Main results

* `Display.write_finite` — what is displayed, by the rounded exact value.
* `Display.evaluate_shown` — a displayed text evaluates to itself.
-/

namespace DeskCalc.Display

/-- The number displayed is the one nearest to the rounded value, under the
same sign. -/
theorem toBinary64_rounded (negative : Bool) (m : Magnitude) {places : ℕ}
    (hSteps : steps m places ≠ 0) :
    (rounded negative m places).toBinary64 =
      .ofPlace negative (place (steps m places / 10 ^ places)) := by
  have hUnits : (rounded negative m places).units =
      if negative then -(steps m places : ℤ) else steps m places := by
    rw [rounded_eq_steps]
  have hSign {n : ℕ} (hn : n ≠ 0) :
      decide ((if negative then -(n : ℤ) else n) < 0) = negative := by
    cases negative with
    | false =>
        have hNot : ¬ (n : ℤ) < 0 := by omega
        exact decide_eq_false hNot
    | true =>
        have hNeg : -(n : ℤ) < 0 := by omega
        exact decide_eq_true hNeg
  rw [Decimal.toBinary64_eq, hUnits, hSign hSteps, magnitude_rounded]

/-- What is displayed of a finite number. -/
theorem write_finite (negative : Bool) (m : Magnitude) (places : ℕ) :
    write (.finite negative m) places =
      if steps m (min places maxPlaces) = 0 then .ok ['0']
      else
        let shown := Binary64.ofPlace negative
          (place (steps m (min places maxPlaces) / 10 ^ min places maxPlaces))
        if shown.isFinite then .ok shown.text else .error .notFinite := by
  generalize hPlaces : min places maxPlaces = kept
  have hZero : (rounded negative m kept).units = 0 ↔ steps m kept = 0 := by
    rw [rounded_eq_steps]
    cases negative <;> simp
  rw [write, hPlaces]
  by_cases h : steps m kept = 0
  · rw [if_pos (hZero.2 h), if_pos h]
  · rw [if_neg (mt hZero.1 h), if_neg h, toBinary64_rounded negative m h]

/-- What is displayed of a number whose rounded value has a finite nearest
number. -/
theorem write_of_place (negative : Bool) {m : Magnitude} {places i : ℕ}
    (hSteps : steps m (min places maxPlaces) ≠ 0)
    (hPlace : place (steps m (min places maxPlaces) / 10 ^ min places maxPlaces) = i)
    (hLimit : i < indexLimit) :
    write (.finite negative m) places = .ok (Binary64.finite negative ⟨i, hLimit⟩).text := by
  rw [write_finite, if_neg hSteps, hPlace, Binary64.ofPlace_of_lt negative hLimit]
  rfl

theorem evaluate_text_eq (negative : Bool) (m : Magnitude) (places : ℕ) :
    evaluate (Binary64.finite negative m).text places = write (.finite negative m) places := by
  rw [evaluate, evaluate_text]
  rfl

theorem write_zero (places : ℕ) : write (.finite false .zero) places = .ok ['0'] := by
  have hValue : Magnitude.zero.value = 0 := valueAt_zero
  have hSteps : steps .zero (min places maxPlaces) = 0 := by
    rw [steps, hValue, zero_mul, round_zero]
    rfl
  rw [write_finite, if_pos hSteps]

theorem text_zero : (Binary64.finite false .zero).text = ['0'] := by
  have hWrite : Digits.write 0 = ['0'] := by
    rw [Digits.write]
    rfl
  have hShortest : Magnitude.zero.shortest = ⟨0, 0⟩ := rfl
  show Magnitude.zero.shortest.write = ['0']
  rw [hShortest, ← hWrite]
  exact Decimal.writeUnsigned_zero 0

/-- The number displayed is displayed as itself. -/
theorem write_shown (negative : Bool) (m : Magnitude) {places i : ℕ}
    (hSteps : steps m (min places maxPlaces) ≠ 0)
    (hPlace : place (steps m (min places maxPlaces) / 10 ^ min places maxPlaces) = i)
    (hLimit : i < indexLimit) :
    write (.finite negative ⟨i, hLimit⟩) places =
      .ok (Binary64.finite negative ⟨i, hLimit⟩).text := by
  generalize hKept : min places maxPlaces = kept at hSteps hPlace
  have hFew : kept ≤ 15 := by
    rw [← hKept]
    exact min_le_right places 15
  have hAgain : place (steps ⟨i, hLimit⟩ kept / 10 ^ kept) = i := by
    have hStable := place_round_of_place hFew hPlace
    have hValue : (⟨i, hLimit⟩ : Magnitude).value = valueAt i := rfl
    rw [← hValue, round_eq_steps, Int.cast_natCast] at hStable
    exact hStable
  have hPos : 0 < i := by
    rw [← hPlace]
    exact place_pos_of_pos hFew (Nat.pos_of_ne_zero hSteps)
  have hAgainSteps : steps ⟨i, hLimit⟩ kept ≠ 0 := by
    intro hZero
    rw [hZero, Nat.cast_zero, zero_div, place_zero] at hAgain
    omega
  rw [← hKept] at hAgainSteps hAgain
  exact write_of_place negative hAgainSteps hAgain hLimit

/-- What is displayed of a number evaluates to itself. -/
theorem evaluate_of_write {x : Binary64} {t : Text} {places : ℕ} (h : write x places = .ok t) :
    evaluate t places = .ok t := by
  cases x with
  | infinite negative => cases h
  | nan => cases h
  | finite negative m =>
      rw [write_finite] at h
      split at h
      next =>
        cases h
        rw [← text_zero, evaluate_text_eq, write_zero, text_zero]
      next hSteps =>
        dsimp only at h
        split at h
        next hFinite =>
          have hLimit := Binary64.isFinite_ofPlace_iff.1 hFinite
          rw [Binary64.ofPlace_of_lt negative hLimit] at h
          cases h
          rw [evaluate_text_eq]
          exact write_shown negative m hSteps rfl hLimit
        next => cases h

/-- **A displayed text evaluates to itself.** -/
theorem evaluate_shown {s t : Text} {places : ℕ} (h : evaluate s places = .ok t) :
    evaluate t places = .ok t := by
  obtain ⟨x, -, hWrite⟩ := exists_of_bind_eq_ok h
  exact evaluate_of_write hWrite

/-- Two thirds below zero, with more places asked for than there are to show. -/
theorem evaluate_shown_thirds :
    evaluate "-2/3".toList 20 = .ok "-0.666666666666667".toList ∧
      evaluate "-0.666666666666667".toList 20 = .ok "-0.666666666666667".toList := by
  have hOption : (evaluate "-2/3".toList 20).toOption = some "-0.666666666666667".toList := by
    decide +kernel
  have hShown : evaluate "-2/3".toList 20 = .ok "-0.666666666666667".toList := by
    cases hValue : evaluate "-2/3".toList 20 with
    | error error =>
        rw [hValue] at hOption
        cases hOption
    | ok t =>
        rw [hValue] at hOption
        exact congrArg Except.ok (Option.some.inj hOption)
  exact ⟨hShown, evaluate_shown hShown⟩

end DeskCalc.Display
