import DeskCalc.Proofs.Numeric.Spacing

/-!
# The midpoints between neighbouring places

Rounding to the nearest place is decided at midpoints. Twice the midpoint
between place `i` and the next one is `unitsAt i + unitsAt (i + 1)` units, and a
midpoint belongs to the even one of its two places. `nearestIndex` picks its
scale from the leading bit and rounds a quotient there; that this meets the
midpoints also where a block of places ends is the content of this module.

## Main results

* `nearestIndex_le_iff` — the nearest place comes no later than `i` exactly up
  to the midpoint behind `i`.
-/

namespace DeskCalc

/-- Twice the midpoint between place `i` and the next one, in units. -/
def twiceMidpoint (i : Nat) : Nat := unitsAt i + unitsAt (i + 1)

theorem twiceMidpoint_strictMono {i j : Nat} (h : i < j) :
    twiceMidpoint i < twiceMidpoint j := by
  have hHere := unitsAt_strictMono h
  have hNext : unitsAt (i + 1) < unitsAt (j + 1) := unitsAt_strictMono (Nat.succ_lt_succ h)
  unfold twiceMidpoint
  omega

/-- A fraction lies at most half from the whole number nearest to it, and less
than half if that number is odd. -/
theorem nearestEven_bounds (a : Nat) {b : Nat} (hb : 0 < b) :
    (2 * a < (2 * nearestEven a b + 1) * b ∨
        2 * a = (2 * nearestEven a b + 1) * b ∧ nearestEven a b % 2 = 0) ∧
      (2 * nearestEven a b * b < 2 * a + b ∨
        2 * nearestEven a b * b = 2 * a + b ∧ nearestEven a b % 2 = 0) := by
  have hDivision := Nat.div_add_mod a b
  have hRest := Nat.mod_lt a hb
  generalize hQuotient : a / b = quotient at hDivision
  generalize hRemainder : a % b = rest at hDivision hRest
  have hMul : b * quotient = quotient * b := Nat.mul_comm b quotient
  unfold nearestEven
  simp only [hQuotient, hRemainder]
  split
  · rw [Nat.add_mul, Nat.mul_assoc]
    omega
  · split
    · rw [Nat.add_mul, Nat.mul_assoc, Nat.add_mul quotient]
      omega
    · rcases Nat.mod_two_eq_zero_or_one quotient with hEven | hOdd
      · have hPick : quotient + quotient % 2 = quotient := by omega
        rw [hPick, Nat.add_mul, Nat.mul_assoc]
        omega
      · have hPick : quotient + quotient % 2 = quotient + 1 := by omega
        rw [hPick, Nat.add_mul, Nat.mul_assoc, Nat.add_mul quotient]
        omega

/-- The scale of a fraction of units: the quotient on it has at most 53 bits,
and exactly 53 unless the scale is zero. -/
theorem scale_bounds (a : Nat) {b : Nat} (hb : 0 < b) :
    a < 2 ^ 53 * (b * 2 ^ ((a / b).log2 - 52)) ∧
      ((a / b).log2 - 52 = 0 ∨ 2 ^ 52 * (b * 2 ^ ((a / b).log2 - 52)) ≤ a) := by
  by_cases hZero : a / b = 0
  · have hLess : a < b := by
      rcases Nat.div_eq_zero_iff.1 hZero with h | h
      · omega
      · exact h
    have hScale : (a / b).log2 - 52 = 0 := by rw [hZero, Nat.log2_zero]
    rw [hScale, Nat.pow_zero, Nat.mul_one]
    refine ⟨?_, .inl rfl⟩
    omega
  · generalize hLog : (a / b).log2 = log
    have hUpper : a / b < 2 ^ (log + 1) := (Nat.log2_lt hZero).1 (by omega)
    have hLower : 2 ^ log ≤ a / b := (Nat.le_log2 hZero).1 (by omega)
    have hAbove : a < 2 ^ (log + 1) * b := (Nat.div_lt_iff_lt_mul hb).1 hUpper
    have hBelow : 2 ^ log * b ≤ a := (Nat.le_div_iff_mul_le hb).1 hLower
    have hSwap (k s : Nat) : 2 ^ k * (b * 2 ^ s) = 2 ^ (k + s) * b := by
      rw [Nat.pow_add, Nat.mul_comm b, Nat.mul_assoc]
    rw [hSwap, hSwap]
    constructor
    · have hPow : 2 ^ (log + 1) ≤ 2 ^ (53 + (log - 52)) :=
        Nat.pow_le_pow_right (by decide) (by omega)
      exact Nat.lt_of_lt_of_le hAbove (Nat.mul_le_mul_right b hPow)
    · by_cases hSmall : log ≤ 52
      · exact .inl (by omega)
      · have hSum : 52 + (log - 52) = log := by omega
        rw [hSum]
        exact .inr hBelow

theorem twiceMidpoint_of_scale {scale rest : Nat} (hRest : rest < 2 ^ 53)
    (hFull : scale = 0 ∨ 2 ^ 52 ≤ rest) :
    twiceMidpoint (scale * 2 ^ 52 + rest) = (2 * rest + 1) * 2 ^ scale := by
  have hHere : unitsAt (scale * 2 ^ 52 + rest) = rest * 2 ^ scale :=
    unitsAt_of_scale (Nat.le_of_lt hRest) hFull
  have hNext : unitsAt (scale * 2 ^ 52 + (rest + 1)) = (rest + 1) * 2 ^ scale :=
    unitsAt_of_scale hRest (by omega)
  rw [twiceMidpoint, Nat.add_assoc, hHere, hNext, ← Nat.add_mul]
  congr 1
  omega

/-- What rounding a quotient on its scale leaves: at most two blocks of places,
and no less than one unless the scale is zero. -/
theorem nearest_range {a scale spacing nearest : Nat} (hLess : a < 2 ^ 53 * spacing)
    (hFull : scale = 0 ∨ 2 ^ 52 * spacing ≤ a)
    (hAbove : 2 * a < (2 * nearest + 1) * spacing ∨
      2 * a = (2 * nearest + 1) * spacing ∧ nearest % 2 = 0)
    (hBelow : 2 * nearest * spacing < 2 * a + spacing ∨
      2 * nearest * spacing = 2 * a + spacing ∧ nearest % 2 = 0) :
    nearest ≤ 2 ^ 53 ∧ (scale = 0 ∨ 2 ^ 52 ≤ nearest) := by
  have hSpacing : 0 < spacing := by
    rcases Nat.eq_zero_or_pos spacing with rfl | h
    · omega
    · exact h
  constructor
  · apply Nat.le_of_not_lt
    intro hMore
    have hMul : (2 ^ 54 + 2) * spacing ≤ 2 * nearest * spacing :=
      Nat.mul_le_mul_right spacing (by omega)
    omega
  · rcases hFull with hZero | hLarge
    · exact .inl hZero
    · right
      apply Nat.le_of_not_lt
      intro hFewer
      have hMul : (2 * nearest + 1) * spacing ≤ (2 ^ 53 - 1) * spacing :=
        Nat.mul_le_mul_right spacing (by omega)
      omega

/-- The scale and the rest that the nearest place is made of. -/
theorem exists_nearestIndex_eq (a : Nat) {b : Nat} (hb : 0 < b) :
    ∃ scale rest, nearestIndex a b = scale * 2 ^ 52 + rest ∧
      rest ≤ 2 ^ 53 ∧ (scale = 0 ∨ 2 ^ 52 ≤ rest) ∧
      a < 2 ^ 53 * (b * 2 ^ scale) ∧ (scale = 0 ∨ 2 ^ 52 * (b * 2 ^ scale) ≤ a) ∧
      (2 * a < (2 * rest + 1) * (b * 2 ^ scale) ∨
        2 * a = (2 * rest + 1) * (b * 2 ^ scale) ∧ rest % 2 = 0) ∧
      (2 * rest * (b * 2 ^ scale) < 2 * a + b * 2 ^ scale ∨
        2 * rest * (b * 2 ^ scale) = 2 * a + b * 2 ^ scale ∧ rest % 2 = 0) := by
  obtain ⟨hLess, hFull⟩ := scale_bounds a hb
  have hSpacing : 0 < b * 2 ^ ((a / b).log2 - 52) := Nat.mul_pos hb (Nat.two_pow_pos _)
  obtain ⟨hAbove, hBelow⟩ := nearestEven_bounds a hSpacing
  obtain ⟨hMost, hLeast⟩ := nearest_range hLess hFull hAbove hBelow
  exact ⟨_, _, rfl, hMost, hLeast, hLess, hFull, hAbove, hBelow⟩

theorem mul_two_pow_mul (k scale b : Nat) : k * 2 ^ scale * b = k * (b * 2 ^ scale) := by
  rw [Nat.mul_assoc, Nat.mul_comm b]

/-- The midpoint behind the nearest place is not before the fraction. -/
theorem le_twiceMidpoint_nearestIndex (a : Nat) {b : Nat} (hb : 0 < b) :
    2 * a < twiceMidpoint (nearestIndex a b) * b ∨
      2 * a = twiceMidpoint (nearestIndex a b) * b ∧ nearestIndex a b % 2 = 0 := by
  obtain ⟨scale, rest, hPlace, hMost, hLeast, hLess, -, hAbove, -⟩ := exists_nearestIndex_eq a hb
  rw [hPlace]
  rcases Nat.lt_or_eq_of_le hMost with hInside | hEnd
  · rw [twiceMidpoint_of_scale hInside hLeast, mul_two_pow_mul]
    omega
  · left
    have hUnits : unitsAt (scale * 2 ^ 52 + rest) = rest * 2 ^ scale :=
      unitsAt_of_scale hMost hLeast
    have hMore : 2 * rest * 2 ^ scale < twiceMidpoint (scale * 2 ^ 52 + rest) := by
      have hGap := gapAt_pos (scale * 2 ^ 52 + rest)
      rw [twiceMidpoint, unitsAt_succ, hUnits, Nat.mul_assoc]
      omega
    have hScaled := Nat.mul_lt_mul_of_pos_right hMore hb
    rw [mul_two_pow_mul, hEnd] at hScaled
    rw [hEnd]
    omega

/-- The midpoint in front of the nearest place is not behind the fraction. -/
theorem twiceMidpoint_le_of_nearestIndex (a : Nat) {b : Nat} (hb : 0 < b) {j : Nat}
    (h : nearestIndex a b = j + 1) :
    twiceMidpoint j * b < 2 * a ∨ twiceMidpoint j * b = 2 * a ∧ j % 2 = 1 := by
  obtain ⟨scale, rest, hPlace, hMost, hLeast, -, hFull, -, hBelow⟩ := exists_nearestIndex_eq a hb
  rw [hPlace] at h
  by_cases hStart : scale ≠ 0 ∧ rest = 2 ^ 52
  · -- The place begins a block, and the gap in front of it is smaller than its own.
    left
    have hUnits : unitsAt (scale * 2 ^ 52 + rest) = rest * 2 ^ scale :=
      unitsAt_of_scale hMost hLeast
    have hStep : unitsAt j < unitsAt (j + 1) := unitsAt_strictMono (Nat.lt_succ_self j)
    have hFewer : twiceMidpoint j < 2 * rest * 2 ^ scale := by
      rw [twiceMidpoint, Nat.mul_assoc]
      rw [← h, hUnits] at hStep ⊢
      omega
    have hScaled := Nat.mul_lt_mul_of_pos_right hFewer hb
    rw [mul_two_pow_mul, hStart.2] at hScaled
    omega
  · have hBefore : j = scale * 2 ^ 52 + (rest - 1) := by omega
    rw [hBefore, twiceMidpoint_of_scale (by omega) (by omega), mul_two_pow_mul]
    have hOdd : 2 * (rest - 1) + 1 + 1 = 2 * rest := by omega
    have hSplit : 2 * rest * (b * 2 ^ scale) =
        (2 * (rest - 1) + 1) * (b * 2 ^ scale) + b * 2 ^ scale := by
      rw [← hOdd, Nat.succ_mul]
    omega

/-- **The nearest place comes no later than `i`** exactly for the fractions
before the midpoint behind `i`, and at that midpoint if `i` is even. -/
theorem nearestIndex_le_iff (a : Nat) {b : Nat} (hb : 0 < b) (i : Nat) :
    nearestIndex a b ≤ i ↔
      2 * a < twiceMidpoint i * b ∨ 2 * a = twiceMidpoint i * b ∧ i % 2 = 0 := by
  have hUpper := le_twiceMidpoint_nearestIndex a hb
  have hMono {j k : Nat} (h : j < k) : twiceMidpoint j * b < twiceMidpoint k * b :=
    Nat.mul_lt_mul_of_pos_right (twiceMidpoint_strictMono h) hb
  constructor
  · intro h
    rcases Nat.lt_or_eq_of_le h with hLess | hEqual
    · have := hMono hLess
      omega
    · rw [hEqual] at hUpper
      exact hUpper
  · intro h
    apply Nat.le_of_not_lt
    intro hMore
    obtain ⟨j, hPlace⟩ : ∃ j, nearestIndex a b = j + 1 := ⟨nearestIndex a b - 1, by omega⟩
    have hBelow := twiceMidpoint_le_of_nearestIndex a hb hPlace
    rcases Nat.lt_or_eq_of_le (show i ≤ j by omega) with hLess | rfl
    · have := hMono hLess
      omega
    · omega

end DeskCalc
