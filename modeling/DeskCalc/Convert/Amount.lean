import DeskCalc.Numeric.Numeral

/-!
# Amounts

An amount is typed as a numeral with an optional sign in front and an optional
power of ten behind it: `-2.5`, `.5`, `3e-4`. It names the nearest
double-precision number, however long the text and however large the exponent.

## Main results

* `scaled_eq_zero`, `scaled_eq_infinite` — exponents too large to compute with
  are decided by their size.
-/

namespace DeskCalc.Amount

/-- The power of ten that follows a numeral; the empty text means none. -/
def exponent? : Text → Option Int
  | [] => some 0
  | c :: rest =>
      if c = 'e' ∨ c = 'E' then
        let (negative, digits) := Digits.splitSign rest
        (Digits.read? digits).map fun n => if negative then -(n : Int) else (n : Int)
      else none

/-- The number nearest to `units * 10 ^ exponent`. Where the result is certain
to be zero or infinite, the power of ten is not computed. -/
def scaled (negative : Bool) (units : Nat) (exponent : Int) : Binary64 :=
  if units = 0 then .zero negative
  else if 0 ≤ exponent then
    if 342 ≤ exponent then .infinite negative
    else .ofRatio negative (units * 10 ^ exponent.toNat) 1
  else
    let places := (-exponent).toNat
    if units.log2 + 1077 ≤ 3 * places then .zero negative
    else .ofRatio negative units (10 ^ places)

/-- The number that a text names, if it is an amount. -/
def read? (s : Text) : Option Binary64 := do
  let (negative, unsigned) := Digits.splitSign s
  let decimal ← Numeral.read? (unsigned.takeWhile Numeral.isNumeric)
  let exponent ← exponent? (unsigned.dropWhile Numeral.isNumeric)
  some (scaled negative decimal.units.natAbs (exponent - decimal.places))

/-! ## The shortcuts change nothing -/

/-- Less than a quarter of a unit rounds to zero. -/
theorem ofUnits_eq_zero (negative : Bool) {a b : Nat} (h : 4 * a < b) :
    Binary64.ofUnits negative a b = .zero negative := by
  have hDiv : a / b = 0 := Nat.div_eq_of_lt (by omega)
  have hMod : a % b = a := Nat.mod_eq_of_lt (by omega)
  have hIndex : nearestIndex a b = 0 := by
    have : 2 * a < b := by omega
    simp [nearestIndex, nearestEven, hDiv, hMod, this]
  have hLimit : 0 < indexLimit := by decide
  simp [Binary64.ofUnits, hIndex, hLimit, Binary64.zero, Magnitude.zero]

/-- A number of units beyond all finite magnitudes is nearest to infinity. -/
theorem ofUnits_eq_infinite (negative : Bool) {a k : Nat} (hk : 2099 ≤ k)
    (h : 2 ^ k ≤ a) : Binary64.ofUnits negative a 1 = .infinite negative := by
  have hPos : a ≠ 0 := Nat.ne_of_gt (Nat.lt_of_lt_of_le (Nat.two_pow_pos k) h)
  have hLog : k ≤ a.log2 := (Nat.le_log2 hPos).2 h
  have hPlace : indexLimit ≤ nearestIndex a 1 := by
    have : 2047 * 2 ^ 52 ≤ (a.log2 - 52) * 2 ^ 52 :=
      Nat.mul_le_mul_right _ (by omega)
    simp only [nearestIndex, Nat.div_one]
    exact Nat.le_trans this (Nat.le_add_right _ _)
  have hIndex : ¬ nearestIndex a 1 < indexLimit := Nat.not_lt.2 hPlace
  simp [Binary64.ofUnits, hIndex]

theorem eight_pow_le_ten_pow (n : Nat) : 2 ^ (3 * n) ≤ 10 ^ n := by
  rw [Nat.pow_mul]
  exact Nat.pow_le_pow_left (by decide) n

/-- **A power of ten that leaves less than a quarter of a unit** gives the
nearest number, zero. -/
theorem scaled_eq_zero (negative : Bool) {units places : Nat} (hUnits : units ≠ 0)
    (h : units.log2 + 1077 ≤ 3 * places) :
    Binary64.ofRatio negative units (10 ^ places) = .zero negative := by
  apply ofUnits_eq_zero
  have hLog : units < 2 ^ (units.log2 + 1) := (Nat.log2_lt hUnits).1 (Nat.lt_succ_self _)
  have hMul : units * unitsPerOne < 2 ^ (units.log2 + 1 + unitExponent) := by
    rw [← two_pow_mul_unitsPerOne]
    exact Nat.mul_lt_mul_of_pos_right hLog unitsPerOne_pos
  have hPow : 2 ^ (units.log2 + 1 + unitExponent + 2) ≤ 10 ^ places :=
    Nat.le_trans
      (Nat.pow_le_pow_right (by decide) (by unfold unitExponent; omega))
      (eight_pow_le_ten_pow places)
  rw [Nat.pow_add] at hPow
  omega

/-- **A power of ten beyond all finite magnitudes** gives the nearest number,
infinity. -/
theorem scaled_eq_infinite (negative : Bool) {units exponent : Nat} (hUnits : units ≠ 0)
    (h : 342 ≤ exponent) :
    Binary64.ofRatio negative (units * 10 ^ exponent) 1 = .infinite negative := by
  apply ofUnits_eq_infinite negative (k := 3 * exponent + unitExponent)
    (by unfold unitExponent; omega)
  rw [← two_pow_mul_unitsPerOne]
  exact Nat.mul_le_mul_right _ (Nat.le_trans (eight_pow_le_ten_pow exponent)
    (Nat.le_mul_of_pos_left _ (Nat.pos_of_ne_zero hUnits)))

end DeskCalc.Amount
