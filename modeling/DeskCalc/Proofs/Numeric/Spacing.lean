import DeskCalc.Numeric.Binary64

/-!
# The spacing of the representable magnitudes

The places of the magnitudes go on beyond `indexLimit`, and so do their values:
`unitsAt i` is what the magnitude at place `i` is worth in units of
`2 ^ -1074`. Place `i` and the next one are `gapAt i` units apart. The gap is a
power of two that never shrinks and, from place `2 ^ 52` on, is at most a
`2 ^ 52`-th part of the value.

## Main results

* `unitsAt_succ` — neighbours are one gap apart.
* `unitsAt_strictMono` — the values ascend with the places.
* `gapAt_mul_le` — the gap is small beside the value.
-/

namespace DeskCalc

/-- The spacing behind place `i`, as an exponent of two. -/
def scaleAt (i : Nat) : Nat := i / 2 ^ 52 - 1

/-- How many units the next place is further than place `i`. -/
def gapAt (i : Nat) : Nat := 2 ^ scaleAt i

/-- The value of place `i` in units. -/
def unitsAt (i : Nat) : Nat := (i - scaleAt i * 2 ^ 52) * gapAt i

theorem gapAt_pos (i : Nat) : 0 < gapAt i := Nat.two_pow_pos _

theorem scaleAt_mono {i j : Nat} (h : i ≤ j) : scaleAt i ≤ scaleAt j := by
  unfold scaleAt
  omega

theorem gapAt_mono {i j : Nat} (h : i ≤ j) : gapAt i ≤ gapAt j :=
  Nat.pow_le_pow_right (by decide) (scaleAt_mono h)

@[simp] theorem unitsAt_zero : unitsAt 0 = 0 := by
  simp [unitsAt]

/-- A place is worth its scale and its rest, the rest filling up to two blocks
of `2 ^ 52`. -/
theorem unitsAt_of_scale {scale rest : Nat} (hRest : rest ≤ 2 ^ 53)
    (hFull : scale = 0 ∨ 2 ^ 52 ≤ rest) :
    unitsAt (scale * 2 ^ 52 + rest) = rest * 2 ^ scale := by
  rcases Nat.lt_or_eq_of_le hRest with hLess | rfl
  · have hScale : scaleAt (scale * 2 ^ 52 + rest) = scale := by
      unfold scaleAt
      omega
    rw [unitsAt, gapAt, hScale, Nat.add_sub_cancel_left]
  · have hScale : scaleAt (scale * 2 ^ 52 + 2 ^ 53) = scale + 1 := by
      unfold scaleAt
      omega
    have hSplit : scale * 2 ^ 52 + 2 ^ 53 - (scale + 1) * 2 ^ 52 = 2 ^ 52 := by omega
    have hDouble : 2 ^ (scale + 1) = 2 * 2 ^ scale := by rw [Nat.pow_succ, Nat.mul_comm]
    rw [unitsAt, gapAt, hScale, hSplit, hDouble]
    omega

/-- Every place is a scale and a rest. -/
theorem exists_scale_rest (i : Nat) :
    ∃ rest, i = scaleAt i * 2 ^ 52 + rest ∧ rest < 2 ^ 53 ∧
      (scaleAt i = 0 ∨ 2 ^ 52 ≤ rest) := by
  refine ⟨i - scaleAt i * 2 ^ 52, ?_, ?_, ?_⟩
  · unfold scaleAt
    omega
  · unfold scaleAt
    omega
  · unfold scaleAt
    omega

/-- **Neighbouring places are one gap apart.** -/
theorem unitsAt_succ (i : Nat) : unitsAt (i + 1) = unitsAt i + gapAt i := by
  obtain ⟨rest, hPlace, hRest, hFull⟩ := exists_scale_rest i
  have hHere := unitsAt_of_scale (Nat.le_of_lt hRest) hFull
  have hNext : unitsAt (scaleAt i * 2 ^ 52 + (rest + 1)) = (rest + 1) * 2 ^ scaleAt i :=
    unitsAt_of_scale hRest (by omega)
  rw [← hPlace] at hHere
  rw [← Nat.add_assoc, ← hPlace, Nat.add_mul, Nat.one_mul] at hNext
  rw [hNext, hHere, gapAt]

/-- The values ascend with the places. -/
theorem unitsAt_strictMono {i j : Nat} (h : i < j) : unitsAt i < unitsAt j := by
  induction j with
  | zero => omega
  | succ j ih =>
      have hStep := unitsAt_succ j
      have hGap := gapAt_pos j
      rcases Nat.lt_or_eq_of_le (Nat.le_of_lt_succ h) with hLess | rfl
      · have := ih hLess
        omega
      · omega

/-- **The gap is small beside the value**, from the second block on. -/
theorem gapAt_mul_le {i : Nat} (h : 2 ^ 52 ≤ i) : 2 ^ 52 * gapAt i ≤ unitsAt i := by
  obtain ⟨rest, hPlace, hRest, hFull⟩ := exists_scale_rest i
  have hUnits := unitsAt_of_scale (Nat.le_of_lt hRest) hFull
  rw [← hPlace] at hUnits
  rw [hUnits, gapAt]
  exact Nat.mul_le_mul_right _ (by omega)

/-- In the first two blocks neighbours are one unit apart. -/
theorem gapAt_of_lt {i : Nat} (h : i < 2 * 2 ^ 52) : gapAt i = 1 := by
  have hScale : scaleAt i = 0 := by
    unfold scaleAt
    omega
  rw [gapAt, hScale, Nat.pow_zero]

/-- The gaps on both sides of a place agree unless a block begins there. -/
theorem gapAt_succ_of_mod_ne {i : Nat} (h : (i + 1) % 2 ^ 52 ≠ 0) :
    gapAt (i + 1) = gapAt i := by
  have hScale : scaleAt (i + 1) = scaleAt i := by
    unfold scaleAt
    omega
  rw [gapAt, gapAt, hScale]

end DeskCalc
