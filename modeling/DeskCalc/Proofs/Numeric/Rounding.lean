import Mathlib.Algebra.Order.Round
import Mathlib.Data.Rat.Floor
import DeskCalc.Expr.Display
import DeskCalc.Proofs.Numeric.Exact

/-!
# Rounding to decimal places

`roundAway` is the rounding of a rational number to a whole number, halves away
from zero: of all whole numbers it is the nearest, and of two that are equally near
the one further from zero. A number is displayed from the decimal whose units are its exact
value, scaled by a power of ten, under that rounding.

## Main results

* `roundAway_eq_iff` — rounding said by distances alone.
* `roundHalfAway_eq` — the rounding of a fraction depends on its value only.
* `Display.rounded_eq`, `Display.rounded_eq_steps` — the decimal a number is
  displayed from.
-/

namespace DeskCalc

/-- The whole number nearest to `q`; a half goes away from zero. -/
def roundAway (q : ℚ) : ℤ := if q < 0 then -round (-q) else round q

theorem roundAway_of_nonneg {q : ℚ} (h : 0 ≤ q) : roundAway q = round q :=
  if_neg (not_lt.2 h)

theorem roundAway_neg (q : ℚ) : roundAway (-q) = -roundAway q := by
  unfold roundAway
  rcases lt_trichotomy q 0 with h | h | h
  · have hOther : ¬ -q < 0 := by linarith
    rw [if_pos h, if_neg hOther, neg_neg]
  · simp [h]
  · have hOther : ¬ q < 0 := by linarith
    have hNeg : -q < 0 := by linarith
    rw [if_pos hNeg, if_neg hOther, neg_neg]

theorem round_nonneg {q : ℚ} (h : 0 ≤ q) : 0 ≤ round q := by
  rw [round_eq]
  exact Int.floor_nonneg.2 (by linarith)

theorem round_le_round {p q : ℚ} (h : p ≤ q) : round p ≤ round q := by
  rw [round_eq, round_eq]
  exact Int.floor_le_floor (by linarith)

/-- No whole number is nearer to `q` than `n`, and none as near is further from
zero. -/
structure NearestAway (q : ℚ) (n : ℤ) : Prop where
  nearest : ∀ z : ℤ, |q - n| ≤ |q - z|
  away : ∀ z : ℤ, |q - z| = |q - n| → |z| ≤ |n|

theorem NearestAway.neg {q : ℚ} {n : ℤ} (h : NearestAway q n) : NearestAway (-q) (-n) := by
  -- the mirror image of `z` is as far from `q` as `z` is from the mirror image of `q`
  have hMirror (z : ℤ) : |-q - z| = |q - (-z : ℤ)| := by
    rw [← abs_neg]
    congr 1
    push_cast
    ring
  constructor
  · intro z
    rw [hMirror, hMirror, neg_neg]
    exact h.nearest (-z)
  · intro z hSame
    rw [hMirror, hMirror, neg_neg] at hSame
    rw [← abs_neg z, abs_neg n]
    exact h.away (-z) hSame

theorem nearestAway_round {q : ℚ} (h : 0 ≤ q) : NearestAway q (round q) := by
  refine ⟨round_le q, ?_⟩
  intro z hSame
  have hHalf := abs_sub_round q
  rw [← hSame, abs_le] at hHalf
  have hBelow : z ≤ round q := by
    rw [round_eq]
    exact Int.le_floor.2 (by linarith)
  have hSign : 0 ≤ z := by
    have hMore : (-1 : ℚ) < z := by linarith
    have hMore : -1 < z := by exact_mod_cast hMore
    omega
  rw [abs_of_nonneg hSign, abs_of_nonneg (round_nonneg h)]
  exact hBelow

theorem nearestAway_roundAway (q : ℚ) : NearestAway q (roundAway q) := by
  by_cases h : q < 0
  · have hMirror := (nearestAway_round (q := -q) (by linarith)).neg
    rw [neg_neg] at hMirror
    rw [roundAway, if_pos h]
    exact hMirror
  · rw [roundAway, if_neg h]
    exact nearestAway_round (not_lt.1 h)

theorem NearestAway.unique {q : ℚ} {n m : ℤ} (hn : NearestAway q n) (hm : NearestAway q m) :
    n = m := by
  have hDistance : |q - n| = |q - m| := le_antisymm (hn.nearest m) (hm.nearest n)
  have hSize : |n| = |m| := le_antisymm (hm.away n hDistance) (hn.away m hDistance.symm)
  rcases abs_eq_abs.1 hSize with hSame | rfl
  · exact hSame
  · -- two whole numbers on both sides of zero are equally near to zero only
    have hZero : q * m = 0 := by
      have hSquares := (sq_eq_sq_iff_abs_eq_abs _ _).2 hDistance
      push_cast at hSquares
      linarith
    rcases mul_eq_zero.1 hZero with rfl | hm
    · have hLeast := hn.nearest 0
      rw [zero_sub, zero_sub, abs_neg, abs_neg, Int.cast_zero, abs_zero, abs_nonpos_iff,
        Int.cast_eq_zero] at hLeast
      omega
    · have hm : m = 0 := by exact_mod_cast hm
      omega

/-- **Rounding said by distances alone.** -/
theorem roundAway_eq_iff {q : ℚ} {n : ℤ} : roundAway q = n ↔ NearestAway q n := by
  constructor
  · rintro rfl
    exact nearestAway_roundAway q
  · intro h
    exact (nearestAway_roundAway q).unique h

/-- Adding half a denominator and dividing rounds a fraction. -/
theorem natCast_div_eq_round (a : ℕ) {b : ℕ} (hb : 0 < b) :
    (((2 * a + b) / (2 * b) : ℕ) : ℤ) = round ((a : ℚ) / b) := by
  have hDen : (b : ℚ) ≠ 0 := by exact_mod_cast ne_of_gt hb
  have hHalf : (a : ℚ) / b + 1 / 2 = ((2 * a + b : ℕ) : ℚ) / ((2 * b : ℕ) : ℚ) := by
    push_cast
    field_simp
  rw [round_eq, hHalf, Rat.floor_natCast_div_natCast]
  rfl

theorem roundHalfAway_natCast (a : ℕ) {b : ℕ} (hb : 0 < b) :
    roundHalfAway a b = round ((a : ℚ) / b) := by
  have hSign : ¬ (a : ℤ) < 0 := by omega
  rw [roundHalfAway, if_neg hSign, Int.natAbs_natCast, natCast_div_eq_round a hb]

/-- **The rounding of a fraction depends on its value only.** -/
theorem roundHalfAway_eq (a : ℤ) {b : ℕ} (hb : 0 < b) :
    roundHalfAway a b = roundAway ((a : ℚ) / b) := by
  have hNat (n : ℕ) : roundHalfAway n b = roundAway ((n : ℚ) / b) := by
    have hSign : 0 ≤ (n : ℚ) / b := by positivity
    rw [roundHalfAway_natCast n hb, roundAway_of_nonneg hSign]
  rcases Int.eq_nat_or_neg a with ⟨n, rfl | rfl⟩
  · rw [hNat n, Int.cast_natCast]
  · rw [roundHalfAway_neg, hNat n, ← roundAway_neg, Int.cast_neg, Int.cast_natCast, neg_div]

theorem Binary64.exact_eq (negative : Bool) (m : Magnitude) :
    (Binary64.finite negative m).exact = (signedUnits negative m : ℚ) / unitsPerOne := by
  cases negative
  · have hFalse : ¬ false = true := Bool.false_ne_true
    rw [exact, signedUnits, if_neg hFalse, if_neg hFalse, Int.cast_natCast, Magnitude.value]
  · rw [exact, signedUnits, if_pos rfl, if_pos rfl, Int.cast_neg, Int.cast_natCast, neg_div,
      Magnitude.value]

namespace Display

/-- **The decimal that a number is displayed from** is its exact value under
`roundAway`. -/
theorem rounded_eq (negative : Bool) (m : Magnitude) (places : ℕ) :
    rounded negative m places =
      ⟨roundAway ((Binary64.finite negative m).exact * 10 ^ places), places⟩ := by
  rw [rounded, Decimal.round, roundHalfAway_eq _ unitsPerOne_pos, Binary64.exact_eq]
  congr 2
  push_cast
  ring

/-- The whole number of steps of `10 ^ -places` nearest to a magnitude. -/
def steps (m : Magnitude) (places : ℕ) : ℕ := (round (m.value * 10 ^ places)).toNat

theorem round_eq_steps (m : Magnitude) (places : ℕ) :
    round (m.value * 10 ^ places) = steps m places := by
  have hSign : 0 ≤ round (m.value * 10 ^ places) :=
    round_nonneg (mul_nonneg m.value_nonneg (by positivity))
  exact (Int.toNat_of_nonneg hSign).symm

/-- That decimal holds the steps of the magnitude under the sign of the
number. -/
theorem rounded_eq_steps (negative : Bool) (m : Magnitude) (places : ℕ) :
    rounded negative m places =
      ⟨if negative then -(steps m places : ℤ) else steps m places, places⟩ := by
  have hSign : 0 ≤ m.value * 10 ^ places := mul_nonneg m.value_nonneg (by positivity)
  have hSteps : roundAway (m.value * 10 ^ places) = steps m places := by
    rw [roundAway_of_nonneg hSign, round_eq_steps]
  rw [rounded_eq]
  cases negative with
  | false =>
      rw [Binary64.exact, if_neg Bool.false_ne_true, if_neg Bool.false_ne_true, hSteps]
  | true => rw [Binary64.exact, if_pos rfl, if_pos rfl, neg_mul, roundAway_neg, hSteps]

theorem magnitude_rounded (negative : Bool) (m : Magnitude) (places : ℕ) :
    (rounded negative m places).magnitude = steps m places / 10 ^ places := by
  have hAbs (n : ℕ) : (if negative then -(n : ℤ) else n).natAbs = n := by
    cases negative with
    | false => exact Int.natAbs_natCast n
    | true => exact (Int.natAbs_neg n).trans (Int.natAbs_natCast n)
  rw [rounded_eq_steps, Decimal.magnitude, hAbs]

end Display

end DeskCalc
