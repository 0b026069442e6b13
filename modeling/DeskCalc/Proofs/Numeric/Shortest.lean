import Mathlib.Algebra.Order.AbsoluteValue.Basic
import DeskCalc.Numeric.Shortest
import DeskCalc.Proofs.Numeric.Exact

/-!
# The shortest decimal

Point `c` of grid `j` is the decimal `c * 10 ^ j` in units of `10 ^ -1074`. The
search takes the first grid, from coarse to fine, on which a neighbour of the
exact value reads back. Whatever it takes reads back, since the last grid holds
the exact value. And a grid point that is not on any coarser grid is what it
takes if no other point of its own or a coarser grid reads back.

## Main results

* `toBinary64_shortest` — the shortest decimal of a magnitude reads back.
* `shortest_eq_gridDecimal` — the only point that reads back is the shortest
  decimal.
-/

namespace DeskCalc

/-- The value of point `c` of grid `j`. -/
def gridValue (j c : ℕ) : ℚ := c * 10 ^ j / 10 ^ unitExponent

theorem gridValue_inj {j c k d : ℕ} :
    gridValue j c = gridValue k d ↔ c * 10 ^ j = d * 10 ^ k := by
  have hTen : (10 : ℚ) ^ unitExponent ≠ 0 := by positivity
  rw [gridValue, gridValue, div_left_inj' hTen]
  constructor
  · intro h
    exact_mod_cast h
  · intro h
    exact_mod_cast h

theorem nearestIndex_grid (j c : ℕ) :
    nearestIndex (c * 10 ^ j) (5 ^ unitExponent) = place (gridValue j c) := by
  have hFive : 0 < 5 ^ unitExponent := Nat.pow_pos (by decide)
  have hTen : ((5 ^ unitExponent : ℕ) : ℚ) * unitsPerOne = 10 ^ unitExponent := by
    have hBase : (5 : ℚ) * 2 = 10 := by norm_num
    rw [unitsPerOne, Nat.cast_pow, Nat.cast_pow, Nat.cast_ofNat, Nat.cast_ofNat, ← mul_pow, hBase]
  rw [nearestIndex_eq_place _ hFive, hTen, gridValue, Nat.cast_mul, Nat.cast_pow, Nat.cast_ofNat]

theorem gridDecimal_magnitude (j c : ℕ) :
    (Magnitude.gridDecimal j c).magnitude = gridValue j c := by
  have hUnits : (Magnitude.gridDecimal j c).units.natAbs = c * 10 ^ (j - unitExponent) := rfl
  have hPlaces : (Magnitude.gridDecimal j c).places = unitExponent - j := rfl
  rw [Decimal.magnitude, hUnits, hPlaces, gridValue]
  push_cast
  rcases Nat.le_total j unitExponent with h | h
  · obtain ⟨k, hk⟩ := Nat.exists_eq_add_of_le h
    have hNone : j - unitExponent = 0 := by omega
    have hRest : unitExponent - j = k := by omega
    rw [hNone, hRest, hk, pow_add, pow_zero]
    field_simp
  · obtain ⟨k, hk⟩ := Nat.exists_eq_add_of_le h
    have hNone : unitExponent - j = 0 := by omega
    have hRest : j - unitExponent = k := by omega
    rw [hNone, hRest, hk, pow_add, pow_zero]
    field_simp

namespace Magnitude

variable {m : Magnitude} {j c : ℕ}

theorem readsBack_iff : m.readsBack j c = true ↔ place (gridValue j c) = m.index := by
  rw [readsBack, nearestIndex_grid, beq_iff_eq]

/-- The exact value is a point of the finest grid. -/
theorem gridValue_decimalUnits (m : Magnitude) : gridValue 0 m.decimalUnits = m.value := by
  have hFive : (5 : ℚ) ^ unitExponent ≠ 0 := by positivity
  have hTen : (10 : ℚ) ^ unitExponent = unitsPerOne * 5 ^ unitExponent := by
    have hBase : (2 : ℚ) * 5 = 10 := by norm_num
    rw [unitsPerOne, Nat.cast_pow, Nat.cast_ofNat, ← mul_pow, hBase]
  rw [gridValue, decimalUnits, value, hTen, pow_zero, mul_one]
  push_cast
  rw [mul_div_mul_right _ _ hFive]

theorem neighbour?_fits {fits : ℕ → Bool} {exact spacing : ℕ}
    (h : neighbour? fits exact spacing = some c) : fits c = true := by
  unfold neighbour? at h
  dsimp only at h
  split at h
  next hLower hUpper =>
    split at h
    · cases h
      exact hLower
    · cases h
      exact hUpper
  next hLower _ =>
    cases h
    exact hLower
  next _ hUpper =>
    cases h
    exact hUpper
  next => cases h

theorem neighbour?_eq_none {fits : ℕ → Bool} (exact spacing : ℕ)
    (hNone : ∀ c, fits c = false) : neighbour? fits exact spacing = none := by
  simp [neighbour?, hNone]

theorem neighbour?_eq_some {fits : ℕ → Bool} {exact spacing : ℕ} (hFits : fits c = true)
    (hOnly : ∀ c', fits c' = true → c' = c)
    (hNear : exact / spacing = c ∨ exact / spacing + 1 = c) :
    neighbour? fits exact spacing = some c := by
  have hOther {c' : ℕ} (h : c' ≠ c) : fits c' = false := by
    cases hValue : fits c' with
    | false => rfl
    | true => exact absurd (hOnly c' hValue) h
  unfold neighbour?
  dsimp only
  rcases hNear with hLower | hUpper
  · have hNot : fits (c + 1) = false := hOther (by omega)
    rw [hLower, hFits, hNot]
  · have hNot : fits (exact / spacing) = false := hOther (by omega)
    rw [hUpper, hFits, hNot]

/-- The search ends with the last point or with one that it found. -/
theorem coarsest_cases (point? : ℕ → Option ℕ) (last k : ℕ) :
    coarsest point? last k = (0, last) ∨
      point? (coarsest point? last k).1 = some (coarsest point? last k).2 := by
  induction k with
  | zero => exact .inl rfl
  | succ k ih =>
      rw [coarsest]
      cases hPoint : point? (k + 1) with
      | none => exact ih
      | some c => exact .inr hPoint

/-- The search passes over grids without a point and stops at the first that has
one. -/
theorem coarsest_eq {point? : ℕ → Option ℕ} {last k : ℕ} (hStart : j + 1 ≤ k)
    (hNone : ∀ l, j + 1 < l → point? l = none) (hPoint : point? (j + 1) = some c) :
    coarsest point? last k = (j + 1, c) := by
  induction k with
  | zero => omega
  | succ k ih =>
      rw [coarsest]
      rcases Nat.lt_or_eq_of_le hStart with hMore | hHere
      · rw [hNone _ hMore]
        exact ih (Nat.le_of_lt_succ hMore)
      · rw [← hHere, hPoint]

theorem gridPoint?_place (h : m.gridPoint? j = some c) : place (gridValue j c) = m.index :=
  readsBack_iff.1 (neighbour?_fits h)

/-- The grid and the point that the search for the shortest decimal ends with. -/
def shortestPoint (m : Magnitude) : ℕ × ℕ :=
  coarsest m.gridPoint? m.decimalUnits (Digits.count m.decimalUnits)

theorem shortest_eq (hIndex : m.index ≠ 0) :
    m.shortest = gridDecimal m.shortestPoint.1 m.shortestPoint.2 := if_neg hIndex

theorem place_shortestPoint (m : Magnitude) :
    place (gridValue m.shortestPoint.1 m.shortestPoint.2) = m.index := by
  rcases coarsest_cases m.gridPoint? m.decimalUnits (Digits.count m.decimalUnits) with h | h
  · rw [shortestPoint, h, gridValue_decimalUnits, value_eq, place_valueAt]
  · exact gridPoint?_place h

theorem exists_shortest_eq (m : Magnitude) :
    ∃ j c, m.shortest = gridDecimal j c ∧ place (gridValue j c) = m.index := by
  by_cases hZero : m.index = 0
  · refine ⟨unitExponent, 0, ?_, ?_⟩
    · simp [shortest, hZero, gridDecimal]
    · rw [gridValue, Nat.cast_zero, zero_mul, zero_div, place_zero, hZero]
  · exact ⟨_, _, shortest_eq hZero, m.place_shortestPoint⟩

/-- **The shortest decimal reads back.** -/
theorem toBinary64_shortest (m : Magnitude) : m.shortest.toBinary64 = .finite false m := by
  obtain ⟨j, c, hShortest, hPlace⟩ := exists_shortest_eq m
  have hSign : ¬ (gridDecimal j c).units < 0 := by
    show ¬ ((c * 10 ^ (j - unitExponent) : ℕ) : ℤ) < 0
    omega
  rw [hShortest, Decimal.toBinary64_eq, gridDecimal_magnitude, hPlace, decide_eq_false hSign]
  exact Binary64.ofPlace_of_lt false m.index_lt

/-! ## The only point that reads back -/

theorem lt_count_of_pow_le {n k : ℕ} (h : 10 ^ k ≤ n) : k < Digits.count n := by
  fun_induction Digits.count n generalizing k with
  | case1 n hn =>
      cases k with
      | zero => decide
      | succ k =>
          have hOne : 0 < 10 ^ k := Nat.pow_pos (by decide)
          rw [Nat.pow_succ] at h
          omega
  | case2 n hn ih =>
      cases k with
      | zero => exact Nat.succ_pos _
      | succ k =>
          rw [Nat.pow_succ] at h
          have hTenth : 10 ^ k ≤ n / 10 := (Nat.le_div_iff_mul_le (by decide)).2 h
          exact Nat.succ_lt_succ (ih hTenth)

/-- A point that is on a coarser grid as well has a count that ends in zero. -/
theorem ten_dvd_of_coarser {c d j k : ℕ} (hCoarse : j < k) (h : d * 10 ^ k = c * 10 ^ j) :
    10 ∣ c := by
  obtain ⟨l, rfl⟩ := Nat.exists_eq_add_of_lt hCoarse
  have hExponent : 10 ^ (j + l + 1) = 10 ^ l * 10 * 10 ^ j := by
    rw [← Nat.pow_succ, ← Nat.pow_add]
    congr 1
    omega
  rw [hExponent, ← Nat.mul_assoc, ← Nat.mul_assoc] at h
  have hCount := Nat.eq_of_mul_eq_mul_right (Nat.pow_pos (by decide)) h
  exact Dvd.intro_left _ hCount

/-- Within half a step of a point, in whole units. -/
theorem decimalUnits_near (h : 2 * |m.value - gridValue j c| ≤ gridValue j 1) :
    2 * m.decimalUnits ≤ (2 * c + 1) * 10 ^ j ∧
      2 * c * 10 ^ j ≤ 2 * m.decimalUnits + 10 ^ j := by
  have hTen : (0 : ℚ) < 10 ^ unitExponent := by positivity
  have hScaled : |(m.decimalUnits : ℚ) - c * 10 ^ j| * 2 ≤ 10 ^ j := by
    rw [← gridValue_decimalUnits, gridValue, gridValue, gridValue, pow_zero, mul_one, ← sub_div,
      abs_div, abs_of_pos hTen, Nat.cast_one, one_mul, ← mul_div_assoc,
      div_le_div_iff_of_pos_right hTen, mul_comm] at h
    exact h
  have hBounds := abs_le.1 (show |(m.decimalUnits : ℚ) - c * 10 ^ j| ≤ 10 ^ j / 2 by linarith)
  constructor
  · have hUpper : (2 : ℚ) * m.decimalUnits ≤ (2 * c + 1) * 10 ^ j := by linarith
    exact_mod_cast hUpper
  · have hLower : (2 : ℚ) * c * 10 ^ j ≤ 2 * m.decimalUnits + 10 ^ j := by linarith
    exact_mod_cast hLower

/-- **The only point that reads back is the shortest decimal**: of its own and
all coarser grids, and on no coarser grid itself. -/
theorem shortest_eq_gridDecimal (hIndex : m.index ≠ 0) (hDigit : ¬ 10 ∣ c)
    (hRead : place (gridValue (j + 1) c) = m.index)
    (hOnly : ∀ k d, j + 1 ≤ k → place (gridValue k d) = m.index →
      gridValue k d = gridValue (j + 1) c)
    (hNear : 2 * |m.value - gridValue (j + 1) c| ≤ gridValue (j + 1) 1) :
    m.shortest = gridDecimal (j + 1) c := by
  obtain ⟨hUpper, hLower⟩ := decimalUnits_near hNear
  have hSpacing : 0 < 10 ^ (j + 1) := Nat.pow_pos (by decide)
  have hPos : 1 ≤ c := by
    rcases Nat.eq_zero_or_pos c with rfl | h
    · exact absurd (Nat.dvd_zero 10) hDigit
    · exact h
  have hNone (l : ℕ) (hCoarse : j + 1 < l) : m.gridPoint? l = none := by
    apply neighbour?_eq_none
    intro d
    cases hValue : m.readsBack l d with
    | false => rfl
    | true =>
        have hSame := gridValue_inj.1 (hOnly l d hCoarse.le (readsBack_iff.1 hValue))
        exact absurd (ten_dvd_of_coarser hCoarse hSame) hDigit
  have hPoint : m.gridPoint? (j + 1) = some c := by
    apply neighbour?_eq_some (readsBack_iff.2 hRead)
    · intro d hFits
      have hSame := gridValue_inj.1 (hOnly (j + 1) d le_rfl (readsBack_iff.1 hFits))
      exact Nat.eq_of_mul_eq_mul_right hSpacing hSame
    · have hMost : m.decimalUnits / 10 ^ (j + 1) < c + 1 := by
        rw [Nat.div_lt_iff_lt_mul hSpacing, Nat.add_mul]
        rw [Nat.add_mul, Nat.mul_assoc] at hUpper
        omega
      have hLeast : c - 1 ≤ m.decimalUnits / 10 ^ (j + 1) := by
        rw [Nat.le_div_iff_mul_le hSpacing, Nat.sub_mul]
        rw [Nat.mul_assoc] at hLower
        omega
      omega
  have hStart : j + 1 ≤ Digits.count m.decimalUnits := by
    apply lt_count_of_pow_le
    have hMul : 2 * 10 ^ (j + 1) ≤ 2 * c * 10 ^ (j + 1) :=
      Nat.mul_le_mul_right _ (by omega)
    have hTenth : 10 ^ (j + 1) = 10 ^ j * 10 := Nat.pow_succ 10 j
    omega
  rw [shortest_eq hIndex, shortestPoint, coarsest_eq hStart hNone hPoint]

end Magnitude

end DeskCalc
