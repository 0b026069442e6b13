import DeskCalc.Proofs.Numeric.Exact

/-!
# How far rounding to a place moves a value

A value lies at most half a gap from the place it rounds to. A second value
that is no further from that place rounds to it as well, if both lie on the same
side, or if the gaps on the two sides allow the reflection: upwards they always
do, since gaps never shrink; downwards they do except where a block of places
begins.

## Main results

* `abs_sub_valueAt_place_le` — the error is at most half a gap.
* `abs_sub_le_of_place_eq` — values that share a place are within one gap.
* `place_of_closer_below`, `place_of_closer_above` — values no further from the
  place.
-/

namespace DeskCalc

variable {x y : ℚ} {i : ℕ}

theorem gapValue_le_succ (i : ℕ) : gapValue i ≤ gapValue (i + 1) := by
  have hGap : (gapAt i : ℚ) ≤ gapAt (i + 1) := by exact_mod_cast gapAt_mono (Nat.le_succ i)
  exact div_le_div_of_nonneg_right hGap unitsPerOne_rat_pos.le

theorem place_le_self (y : ℚ) :
    2 * y < 2 * valueAt (place y) + gapValue (place y) ∨
      2 * y = 2 * valueAt (place y) + gapValue (place y) ∧ place y % 2 = 0 := by
  have hSelf := (place_le_iff y (place y)).1 le_rfl
  rw [valueAt_succ, ← add_assoc, ← two_mul] at hSelf
  exact hSelf

theorem le_place_succ_iff (y : ℚ) (j : ℕ) :
    j + 1 ≤ place y ↔ 2 * valueAt (j + 1) - gapValue j < 2 * y ∨
      2 * y = 2 * valueAt (j + 1) - gapValue j ∧ j % 2 = 1 := by
  have hSum : valueAt j + valueAt (j + 1) = 2 * valueAt (j + 1) - gapValue j := by
    rw [valueAt_succ]
    ring
  rw [Nat.succ_le_iff, ← not_le, place_le_iff, hSum]
  constructor
  · intro h
    rw [not_or] at h
    rcases lt_or_eq_of_le (not_lt.1 h.1) with hMore | hTie
    · exact .inl hMore
    · right
      refine ⟨hTie.symm, ?_⟩
      have hOdd : ¬ j % 2 = 0 := fun hEven => h.2 ⟨hTie.symm, hEven⟩
      omega
  · rintro (hMore | ⟨hTie, hOdd⟩) (hLess | ⟨hEqual, hEven⟩)
    · linarith
    · linarith
    · linarith
    · omega

theorem sub_valueAt_place_le (y : ℚ) : y - valueAt (place y) ≤ gapValue (place y) / 2 := by
  rcases place_le_self y with h | ⟨h, -⟩ <;> linarith

theorem valueAt_place_sub_le (hy : 0 ≤ y) :
    valueAt (place y) - y ≤ gapValue (place y) / 2 := by
  cases hPlace : place y with
  | zero =>
      have hGap := gapValue_pos 0
      rw [valueAt_zero]
      linarith
  | succ j =>
      have hGap := gapValue_le_succ j
      rcases (le_place_succ_iff y j).1 (le_of_eq hPlace.symm) with h | ⟨h, -⟩ <;> linarith

/-- **Rounding moves a value by at most half a gap.** -/
theorem abs_sub_valueAt_place_le (hy : 0 ≤ y) :
    |y - valueAt (place y)| ≤ gapValue (place y) / 2 := by
  rw [abs_le]
  constructor
  · have := valueAt_place_sub_le hy
    linarith
  · exact sub_valueAt_place_le y

/-- Two values that share a place are within one gap. -/
theorem abs_sub_le_of_place_eq (hx : 0 ≤ x) (hy : 0 ≤ y) (hPlace : place x = place y) :
    |x - y| ≤ gapValue (place y) := by
  have hLeft := abs_sub_valueAt_place_le hx
  have hRight := abs_sub_valueAt_place_le hy
  rw [hPlace] at hLeft
  rw [abs_le] at *
  constructor
  · linarith
  · linarith

/-- A value between a value and its place has that place. -/
theorem place_between (hPlace : place x = i)
    (h : x ≤ y ∧ y ≤ valueAt i ∨ valueAt i ≤ y ∧ y ≤ x) : place y = i := by
  rcases h with ⟨hLow, hHigh⟩ | ⟨hLow, hHigh⟩
  · apply le_antisymm
    · rw [← place_valueAt i]
      exact place_mono hHigh
    · rw [← hPlace]
      exact place_mono hLow
  · apply le_antisymm
    · rw [← hPlace]
      exact place_mono hHigh
    · rw [← place_valueAt i]
      exact place_mono hLow

/-- From below its place a value may be reflected upwards: the gap above is no
smaller than the gap below. -/
theorem place_reflect_up (hx : 0 ≤ x) (hPlace : place x = i) (hAbove : valueAt i ≤ y)
    (hClose : y - valueAt i ≤ valueAt i - x) : place y = i := by
  have hMost : i ≤ place y := by
    rw [← place_valueAt i]
    exact place_mono hAbove
  refine le_antisymm ((place_le_iff y i).2 ?_) hMost
  rw [valueAt_succ]
  cases i with
  | zero =>
      have hGap := gapValue_pos 0
      rw [valueAt_zero] at *
      left
      linarith
  | succ j =>
      have hGap := gapValue_le_succ j
      rcases (le_place_succ_iff x j).1 (le_of_eq hPlace.symm) with hInside | ⟨hTie, hOdd⟩
      · left
        linarith
      · rcases lt_or_eq_of_le (show 2 * y ≤ 2 * valueAt (j + 1) + gapValue (j + 1) by
          linarith) with hLess | hEqual
        · left
          linarith
        · right
          exact ⟨by linarith, by omega⟩

/-- From above its place a value may be reflected downwards where the gaps on
both sides agree. -/
theorem place_reflect_down (hPlace : place x = i)
    (hGap : ∀ j, i = j + 1 → gapValue j = gapValue i) (hBelow : y ≤ valueAt i)
    (hClose : valueAt i - y ≤ x - valueAt i) : place y = i := by
  have hLeast : place y ≤ i := by
    rw [← place_valueAt i]
    exact place_mono hBelow
  refine le_antisymm hLeast ?_
  cases i with
  | zero => exact Nat.zero_le _
  | succ j =>
      have hEqualGap := hGap j rfl
      have hSelf := place_le_self x
      rw [hPlace] at hSelf
      apply (le_place_succ_iff y j).2
      rcases hSelf with hInside | ⟨hTie, hEven⟩
      · left
        linarith
      · rcases lt_or_eq_of_le (show 2 * valueAt (j + 1) - gapValue j ≤ 2 * y by
          linarith) with hMore | hEqual
        · exact .inl hMore
        · right
          exact ⟨hEqual.symm, by omega⟩

/-- No further from the place than a value below it. -/
theorem place_of_closer_below (hx : 0 ≤ x) (hPlace : place x = i) (hBelow : x ≤ valueAt i)
    (hCloser : |valueAt i - y| ≤ |valueAt i - x|) : place y = i := by
  rw [abs_of_nonneg (sub_nonneg.2 hBelow)] at hCloser
  rcases le_total y (valueAt i) with hy | hy
  · rw [abs_of_nonneg (sub_nonneg.2 hy)] at hCloser
    exact place_between hPlace (.inl ⟨by linarith, hy⟩)
  · rw [abs_of_nonpos (sub_nonpos.2 hy)] at hCloser
    exact place_reflect_up hx hPlace hy (by linarith)

/-- No further from the place than a value above it. -/
theorem place_of_closer_above (hPlace : place x = i) (hAbove : valueAt i ≤ x)
    (hGap : ∀ j, i = j + 1 → gapValue j = gapValue i)
    (hCloser : |valueAt i - y| ≤ |valueAt i - x|) : place y = i := by
  rw [abs_of_nonpos (sub_nonpos.2 hAbove)] at hCloser
  rcases le_total y (valueAt i) with hy | hy
  · rw [abs_of_nonneg (sub_nonneg.2 hy)] at hCloser
    exact place_reflect_down hPlace hGap hy (by linarith)
  · rw [abs_of_nonpos (sub_nonpos.2 hy)] at hCloser
    exact place_between hPlace (.inr ⟨hy, by linarith⟩)

end DeskCalc
