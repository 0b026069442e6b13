import DeskCalc.Proofs.Numeric.FifteenDigits

/-!
# The shortest decimal has the fewest places

Rounding intervals have no gaps: between a magnitude and a decimal that rounds
to it everything rounds to it. So if any point of a grid reads back, one of the
two points around the exact value does, and the search, which looks at no others,
does not miss the grid. A magnitude nearest to a decimal with a certain number of
places therefore has a shortest decimal with no more places, and this ends in no
zero behind its point, for then a coarser grid would hold it.

## Main results

* `Magnitude.exists_gridPoint?` — a grid with a point that reads back is not
  missed.
* `Magnitude.exists_shortest_form` — the shortest decimal of the magnitude
  nearest to a decimal.
-/

namespace DeskCalc

/-- The gap behind a place other than zero is no larger than its value. -/
theorem gapValue_le_valueAt {i : ℕ} (hPos : 0 < i) : gapValue i ≤ valueAt i := by
  have hUnits : gapAt i ≤ unitsAt i := by
    rcases Nat.lt_or_ge i (2 ^ 52) with hLow | hHigh
    · have hPositive := unitsAt_strictMono hPos
      rw [unitsAt_zero] at hPositive
      rw [gapAt_of_lt (by omega)]
      exact hPositive
    · have hSmall := gapAt_mul_le hHigh
      omega
  have hUnitsRat : (gapAt i : ℚ) ≤ unitsAt i := by exact_mod_cast hUnits
  exact div_le_div_of_nonneg_right hUnitsRat unitsPerOne_rat_pos.le

/-- A value that does not round to zero is less than twice what it rounds to. -/
theorem lt_two_mul_valueAt_place {y : ℚ} (hPos : 0 < place y) : y < 2 * valueAt (place y) := by
  have hError := sub_valueAt_place_le y
  have hGap := gapValue_le_valueAt hPos
  have hPositive := gapValue_pos (place y)
  linarith

theorem gridValue_mono (j : ℕ) {c d : ℕ} (h : c ≤ d) : gridValue j c ≤ gridValue j d := by
  have hCount : (c : ℚ) ≤ d := by exact_mod_cast h
  unfold gridValue
  gcongr

namespace Magnitude

variable {m : Magnitude}

/-- Two neighbours of which neither fits are all that yields nothing. -/
theorem neighbour?_ne_none {fits : ℕ → Bool} {exact spacing : ℕ}
    (h : fits (exact / spacing) = true ∨ fits (exact / spacing + 1) = true) :
    neighbour? fits exact spacing ≠ none := by
  unfold neighbour?
  dsimp only
  split
  next => simp
  next => simp
  next => simp
  next hLower hUpper =>
    rw [hLower, hUpper] at h
    simp at h

/-- What is found is one of the two neighbours. -/
theorem neighbour?_le {fits : ℕ → Bool} {exact spacing c : ℕ}
    (h : neighbour? fits exact spacing = some c) : c ≤ exact / spacing + 1 := by
  unfold neighbour? at h
  dsimp only at h
  split at h
  · split at h <;> cases h <;> omega
  · cases h
    omega
  · cases h
    omega
  · cases h

/-- The exact value lies between its neighbours on a grid. -/
theorem gridValue_neighbours (m : Magnitude) (j : ℕ) :
    gridValue j (m.decimalUnits / 10 ^ j) ≤ m.value ∧
      m.value ≤ gridValue j (m.decimalUnits / 10 ^ j + 1) := by
  have hTen : (0 : ℚ) < 10 ^ unitExponent := by positivity
  have hSpacing : 0 < 10 ^ j := Nat.pow_pos (by decide)
  have hLower : m.decimalUnits / 10 ^ j * 10 ^ j ≤ m.decimalUnits := Nat.div_mul_le_self _ _
  have hUpper : m.decimalUnits ≤ (m.decimalUnits / 10 ^ j + 1) * 10 ^ j :=
    (Nat.lt_mul_of_div_lt (Nat.lt_succ_self _) hSpacing).le
  rw [← gridValue_decimalUnits, gridValue, gridValue, gridValue, pow_zero, mul_one]
  constructor
  · apply div_le_div_of_nonneg_right _ hTen.le
    exact_mod_cast hLower
  · apply div_le_div_of_nonneg_right _ hTen.le
    exact_mod_cast hUpper

/-- **A grid with a point that reads back is not missed.** -/
theorem exists_gridPoint? {j c : ℕ} (hRead : place (gridValue j c) = m.index) :
    m.gridPoint? j ≠ none := by
  obtain ⟨hLower, hUpper⟩ := m.gridValue_neighbours j
  rw [m.value_eq] at hLower hUpper
  apply neighbour?_ne_none
  rcases Nat.lt_or_ge (m.decimalUnits / 10 ^ j) c with hAbove | hBelow
  · right
    rw [readsBack_iff]
    exact place_between hRead (.inr ⟨hUpper, gridValue_mono j hAbove⟩)
  · left
    rw [readsBack_iff]
    exact place_between hRead (.inl ⟨gridValue_mono j hBelow, hLower⟩)

/-- Behind the grid where the search ends, up to where it began, there was
nothing. -/
theorem coarsest_none {point? : ℕ → Option ℕ} {last k l : ℕ}
    (hBehind : (coarsest point? last k).1 < l) (hStart : l ≤ k) : point? l = none := by
  induction k with
  | zero => omega
  | succ k ih =>
      rw [coarsest] at hBehind
      cases hPoint : point? (k + 1) with
      | some c =>
          rw [hPoint] at hBehind
          dsimp only at hBehind
          omega
      | none =>
          rw [hPoint] at hBehind
          rcases Nat.lt_or_eq_of_le hStart with hLess | rfl
          · exact ih hBehind (Nat.le_of_lt_succ hLess)
          · exact hPoint

theorem shortestPoint_le (m : Magnitude) :
    m.shortestPoint.2 ≤ m.decimalUnits / 10 ^ m.shortestPoint.1 + 1 := by
  rcases coarsest_cases m.gridPoint? m.decimalUnits (Digits.count m.decimalUnits) with h | h
  · rw [shortestPoint, h, pow_zero, Nat.div_one]
    exact Nat.le_succ _
  · exact neighbour?_le h

/-- No grid that reaches up to the leading digit is coarser and has a point that
reads back. -/
theorem le_shortestPoint {k c : ℕ} (hRead : place (gridValue k c) = m.index)
    (hReach : k = 0 ∨ 10 ^ (k - 1) ≤ m.decimalUnits) : k ≤ m.shortestPoint.1 := by
  by_contra hCoarser
  rw [not_le] at hCoarser
  have hStart : k ≤ Digits.count m.decimalUnits := by
    rcases hReach with rfl | hReach
    · exact Nat.zero_le _
    · have := lt_count_of_pow_le hReach
      omega
  exact exists_gridPoint? hRead (coarsest_none hCoarser hStart)

/-- **The point found has no zero at its end.** With one it would be on the next
coarser grid, too. -/
theorem not_ten_dvd_shortestPoint (hIndex : m.index ≠ 0) : ¬ 10 ∣ m.shortestPoint.2 := by
  have hPlace := m.place_shortestPoint
  have hNear := m.shortestPoint_le
  have hMost (k c : ℕ) := le_shortestPoint (m := m) (k := k) (c := c)
  generalize m.shortestPoint = point at *
  obtain ⟨j, last⟩ := point
  rintro ⟨c, rfl⟩
  dsimp only at *
  have hPos : c ≠ 0 := by
    rintro rfl
    apply hIndex
    rw [← hPlace, gridValue, Nat.mul_zero, Nat.cast_zero, zero_mul, zero_div, ← valueAt_zero,
      place_valueAt]
  have hCoarser : gridValue j (10 * c) = gridValue (j + 1) c := by
    rw [gridValue_inj, Nat.pow_succ]
    ring
  have hReach : 10 ^ j ≤ m.decimalUnits := by
    have hOne : 1 ≤ m.decimalUnits / 10 ^ j := by omega
    rw [Nat.le_div_iff_mul_le (Nat.pow_pos (by decide)), Nat.one_mul] at hOne
    exact hOne
  have hLess := hMost (j + 1) c (hCoarser ▸ hPlace) (.inr hReach)
  omega

/-- A grid of the places of a decimal reaches up to the leading digit of the
magnitude nearest to it. -/
theorem pow_le_decimalUnits {count places : ℕ} (hPlaces : places ≤ unitExponent)
    (hCount : 0 < count) (hPos : 0 < m.index)
    (hPlace : place (count / 10 ^ places) = m.index) :
    10 ^ (unitExponent - places) < 2 * m.decimalUnits := by
  have hTen : (0 : ℚ) < 10 ^ unitExponent := by positivity
  have hCountRat : (1 : ℚ) ≤ count := by exact_mod_cast hCount
  have hStep : gridValue (unitExponent - places) 1 = 1 / 10 ^ places := by
    have hGrid := gridValue_eq_decimal hPlaces 1 0
    rwa [Nat.add_zero, Nat.pow_zero, Nat.mul_one, Nat.cast_one] at hGrid
  have hDecimal : 1 / 10 ^ places < 2 * m.value := by
    have hLess := lt_two_mul_valueAt_place (hPlace ▸ hPos)
    rw [hPlace, ← m.value_eq] at hLess
    exact lt_of_le_of_lt (div_le_div_of_nonneg_right hCountRat (by positivity)) hLess
  rw [← hStep, ← gridValue_decimalUnits, gridValue, gridValue, Nat.cast_one, one_mul, pow_zero,
    mul_one, ← mul_div_assoc, div_lt_div_iff_of_pos_right hTen] at hDecimal
  exact_mod_cast hDecimal

/-- **The shortest decimal of the magnitude nearest to a decimal** has no more
places than that, and if it has any it ends in no zero. -/
theorem exists_shortest_form {count places : ℕ} (hPlaces : places ≤ 15) (hCount : 0 < count)
    (hPlace : place (count / 10 ^ places) = m.index) :
    ∃ n kept, m.shortest = ⟨(n : ℕ), kept⟩ ∧ n ≠ 0 ∧ kept ≤ places ∧ (kept ≠ 0 → ¬ 10 ∣ n) := by
  have hFew : places + 1 ≤ unitExponent := by
    unfold unitExponent
    omega
  have hPos : 0 < m.index := hPlace ▸ place_pos_of_pos hPlaces hCount
  have hDigit := not_ten_dvd_shortestPoint hPos.ne'
  have hGrid : place (gridValue (unitExponent - places) count) = m.index := by
    have hValue := gridValue_eq_decimal (Nat.le_of_succ_le hFew) count 0
    rw [Nat.add_zero, Nat.pow_zero, Nat.mul_one] at hValue
    rw [hValue, hPlace]
  have hReach : 10 ^ (unitExponent - places - 1) ≤ m.decimalUnits := by
    have hLess := pow_le_decimalUnits (Nat.le_of_succ_le hFew) hCount hPos hPlace
    have hTenth : 10 ^ (unitExponent - places) = 10 ^ (unitExponent - places - 1) * 10 := by
      rw [← Nat.pow_succ]
      congr 1
      omega
    omega
  have hCoarse := le_shortestPoint hGrid (.inr hReach)
  have hShortest := shortest_eq hPos.ne'
  generalize m.shortestPoint = point at *
  obtain ⟨j, c⟩ := point
  dsimp only at *
  have hCountPos : c ≠ 0 := by
    rintro rfl
    exact hDigit (Nat.dvd_zero 10)
  refine ⟨c * 10 ^ (j - unitExponent), unitExponent - j, hShortest, ?_, by omega, ?_⟩
  · exact Nat.mul_ne_zero hCountPos (Nat.pow_pos (by decide)).ne'
  · intro hKept
    have hNone : j - unitExponent = 0 := by omega
    rw [hNone, Nat.pow_zero, Nat.mul_one]
    exact hDigit

end Magnitude

end DeskCalc
