import DeskCalc.Proofs.Numeric.Distance

/-!
# The nearest place

`place` divides whole numbers and is decided at midpoints. What it is for is
said of distances alone: no place is closer to the value, and of two that are
equally close the even one is taken. On an ascending scale both come to the same,
because a point is closer to the lower of two places exactly if it lies below
their midpoint.

## Main results

* `nearest_place`, `Nearest.place_eq` — the place of a value is the nearest one, and no
  other is.
-/

namespace DeskCalc

variable {y : ℚ} {i : ℕ}

/-- Every other place is further from the value than place `i`, or equally far
if `i` is even. -/
def Nearest (y : ℚ) (i : ℕ) : Prop :=
  ∀ j, j ≠ i → |y - valueAt i| < |y - valueAt j| ∨
    |y - valueAt i| = |y - valueAt j| ∧ i % 2 = 0

section Midpoint

variable {low high : ℚ}

theorem sq_distance_sub (y low high : ℚ) :
    (y - high) ^ 2 - (y - low) ^ 2 = (high - low) * (low + high - 2 * y) := by
  ring

/-- Below the midpoint the lower end is closer. -/
theorem closer_low_iff (h : low < high) : |y - low| < |y - high| ↔ 2 * y < low + high := by
  rw [← sq_lt_sq, ← sub_pos, sq_distance_sub, mul_pos_iff_of_pos_left (sub_pos.2 h), sub_pos]

/-- At the midpoint both ends are equally far. -/
theorem equally_far_iff (h : low < high) : |y - low| = |y - high| ↔ 2 * y = low + high := by
  have hGap : high - low ≠ 0 := sub_ne_zero.2 h.ne'
  rw [← sq_eq_sq_iff_abs_eq_abs, eq_comm, ← sub_eq_zero, sq_distance_sub, mul_eq_zero,
    or_iff_right hGap, sub_eq_zero, eq_comm]

/-- Above the midpoint the upper end is closer. -/
theorem closer_high_iff (h : low < high) : |y - high| < |y - low| ↔ low + high < 2 * y := by
  rw [← not_le, ← not_le, le_iff_lt_or_eq, le_iff_lt_or_eq, closer_low_iff h, equally_far_iff h]

end Midpoint

theorem le_place_iff (y : ℚ) (j : ℕ) :
    j + 1 ≤ place y ↔ valueAt j + valueAt (j + 1) < 2 * y ∨
      2 * y = valueAt j + valueAt (j + 1) ∧ (j + 1) % 2 = 0 := by
  have hSum : valueAt j + valueAt (j + 1) = 2 * valueAt (j + 1) - gapValue j := by
    rw [valueAt_succ]
    ring
  have hParity : (j + 1) % 2 = 0 ↔ j % 2 = 1 := by omega
  rw [le_place_succ_iff, hSum, hParity]

/-- **The nearest place is the place of the value.** -/
theorem Nearest.place_eq (h : Nearest y i) : place y = i := by
  apply le_antisymm
  · have hAbove := valueAt_strictMono (Nat.lt_succ_self i)
    have hNext := h (i + 1) (Nat.succ_ne_self i)
    rw [closer_low_iff hAbove, equally_far_iff hAbove] at hNext
    exact (place_le_iff y i).2 hNext
  · cases i with
    | zero => exact Nat.zero_le _
    | succ j =>
        have hBelow := valueAt_strictMono (Nat.lt_succ_self j)
        have hPrevious := h j (Nat.succ_ne_self j).symm
        rw [closer_high_iff hBelow, eq_comm, equally_far_iff hBelow] at hPrevious
        exact (le_place_iff y j).2 hPrevious

/-- **The place of a value is nearest to it.** -/
theorem nearest_place (y : ℚ) : Nearest y (place y) := by
  intro j hj
  rcases lt_or_gt_of_ne hj with hBelow | hAbove
  · -- between `j` and the place lies the midpoint below the place
    obtain ⟨k, hk⟩ : ∃ k, place y = k + 1 := Nat.exists_eq_succ_of_ne_zero (by omega)
    have hFar : valueAt j ≤ valueAt k := valueAt_strictMono.monotone (by omega)
    have hOrder := valueAt_strictMono hBelow
    have hPlace := (le_place_iff y k).1 hk.ge
    rw [closer_high_iff hOrder, eq_comm, equally_far_iff hOrder, hk]
    rcases hPlace with hMore | ⟨hTie, hEven⟩
    · left
      linarith
    · rcases lt_or_eq_of_le hFar with hLess | hSame
      · left
        linarith
      · right
        rw [hSame]
        exact ⟨hTie, hEven⟩
  · have hFar : valueAt (place y + 1) ≤ valueAt j :=
      valueAt_strictMono.monotone (Nat.succ_le_of_lt hAbove)
    have hOrder := valueAt_strictMono hAbove
    have hPlace := (place_le_iff y (place y)).1 le_rfl
    rw [closer_low_iff hOrder, equally_far_iff hOrder]
    rcases hPlace with hLess | ⟨hTie, hEven⟩
    · left
      linarith
    · rcases lt_or_eq_of_le hFar with hLess | hSame
      · left
        linarith
      · right
        rw [← hSame]
        exact ⟨hTie, hEven⟩

end DeskCalc
