import Mathlib.Algebra.Order.Field.Rat
import Mathlib.Tactic.FieldSimp
import Mathlib.Tactic.Linarith
import Mathlib.Tactic.Positivity
import Mathlib.Tactic.Ring
import DeskCalc.Numeric.Decimal
import DeskCalc.Proofs.Numeric.Midpoint

/-!
# Exact values

Every finite number has an exact rational value, and so has every decimal.
`place` rounds a rational number to the place of the nearest magnitude, ties to
the even place; it is what `nearestIndex` computes on numerators and
denominators. As a function of the value alone it is monotone, and it is pinned
down by the midpoints.

## Main results

* `place_le_iff` — the place of a value is decided at the midpoints.
* `place_mono`, `place_valueAt` — rounding keeps the order and the
  representable values.
* `Decimal.toBinary64_eq` — reading a decimal rounds its value.
-/

namespace DeskCalc

/-- The exact value of place `i`. -/
def valueAt (i : ℕ) : ℚ := unitsAt i / unitsPerOne

/-- The exact value of a magnitude. -/
def Magnitude.value (m : Magnitude) : ℚ := m.units / unitsPerOne

/-- The exact value of a finite number. -/
def Binary64.exact : Binary64 → ℚ
  | .finite negative m => if negative then -m.value else m.value
  | _ => 0

theorem Magnitude.value_eq (m : Magnitude) : m.value = valueAt m.index := rfl

theorem unitsPerOne_rat_pos : (0 : ℚ) < unitsPerOne := by
  exact_mod_cast unitsPerOne_pos

theorem valueAt_zero : valueAt 0 = 0 := by
  rw [valueAt, unitsAt_zero, Nat.cast_zero, zero_div]

/-- How much more the next place is worth than place `i`. -/
def gapValue (i : ℕ) : ℚ := gapAt i / unitsPerOne

theorem gapValue_pos (i : ℕ) : 0 < gapValue i := by
  have hGap : (0 : ℚ) < gapAt i := by exact_mod_cast gapAt_pos i
  exact div_pos hGap unitsPerOne_rat_pos

theorem valueAt_succ (i : ℕ) : valueAt (i + 1) = valueAt i + gapValue i := by
  rw [valueAt, valueAt, unitsAt_succ, Nat.cast_add, add_div, gapValue]

theorem valueAt_strictMono : StrictMono valueAt := by
  intro i j h
  have hUnits : (unitsAt i : ℚ) < unitsAt j := by exact_mod_cast unitsAt_strictMono h
  exact div_lt_div_of_pos_right hUnits unitsPerOne_rat_pos

theorem valueAt_nonneg (i : ℕ) : 0 ≤ valueAt i := by
  rw [← valueAt_zero]
  exact valueAt_strictMono.monotone (Nat.zero_le i)

theorem twiceMidpoint_div (i : ℕ) :
    (twiceMidpoint i : ℚ) / unitsPerOne = valueAt i + valueAt (i + 1) := by
  rw [twiceMidpoint, Nat.cast_add, add_div, valueAt, valueAt]

theorem nearestIndex_le_iff_value (a : ℕ) {b : ℕ} (hb : 0 < b) (i : ℕ) :
    nearestIndex a b ≤ i ↔
      2 * ((a : ℚ) / (b * unitsPerOne)) < valueAt i + valueAt (i + 1) ∨
        2 * ((a : ℚ) / (b * unitsPerOne)) = valueAt i + valueAt (i + 1) ∧ i % 2 = 0 := by
  have hDen : (0 : ℚ) < b := by exact_mod_cast hb
  have hOne := unitsPerOne_rat_pos
  have hLeft : 2 * ((a : ℚ) / (b * unitsPerOne)) = (2 * a : ℕ) / (b * unitsPerOne) := by
    push_cast
    ring
  have hRight : valueAt i + valueAt (i + 1) =
      (twiceMidpoint i * b : ℕ) / ((b : ℚ) * unitsPerOne) := by
    rw [← twiceMidpoint_div]
    push_cast
    field_simp
  have hScale : (0 : ℚ) < b * unitsPerOne := mul_pos hDen hOne
  rw [nearestIndex_le_iff a hb, hLeft, hRight, div_lt_div_iff_of_pos_right hScale,
    div_left_inj' (ne_of_gt hScale), Nat.cast_lt, Nat.cast_inj]

/-- The place of the magnitude nearest to a value, ties to the even one. -/
def place (y : ℚ) : ℕ := nearestIndex (y.num.toNat * unitsPerOne) y.den

/-- **The place of a value is decided at the midpoints.** -/
theorem place_le_iff (y : ℚ) (i : ℕ) :
    place y ≤ i ↔ 2 * y < valueAt i + valueAt (i + 1) ∨
      2 * y = valueAt i + valueAt (i + 1) ∧ i % 2 = 0 := by
  have hDen : (y.den : ℚ) ≠ 0 := by exact_mod_cast y.den_ne_zero
  have hOne := unitsPerOne_rat_pos
  rw [place, nearestIndex_le_iff_value _ y.den_pos]
  have hFraction : ((y.num.toNat * unitsPerOne : ℕ) : ℚ) / (y.den * unitsPerOne) =
      y.num.toNat / y.den := by
    push_cast
    field_simp
  rw [hFraction]
  rcases le_or_gt 0 y with hSign | hSign
  · have hNum : ((y.num.toNat : ℕ) : ℚ) = y.num := by
      exact_mod_cast Int.toNat_of_nonneg (Rat.num_nonneg.2 hSign)
    rw [hNum, Rat.num_div_den]
  · have hNum : y.num.toNat = 0 := Int.toNat_of_nonpos (Rat.num_neg.2 hSign).le
    have hPos : 0 < valueAt i + valueAt (i + 1) := by
      have hHere := valueAt_nonneg i
      have hNext := valueAt_strictMono (Nat.lt_succ_self i)
      linarith
    rw [hNum, Nat.cast_zero, zero_div, mul_zero]
    constructor
    · intro _
      left
      linarith
    · intro _
      exact .inl hPos

theorem nearestIndex_eq_place (a : ℕ) {b : ℕ} (hb : 0 < b) :
    nearestIndex a b = place (a / (b * unitsPerOne)) := by
  apply eq_of_forall_ge_iff
  intro i
  rw [nearestIndex_le_iff_value a hb, place_le_iff]

/-- Rounding to the nearest place keeps the order. -/
theorem place_mono : Monotone place := by
  intro x y h
  have hSelf := (place_le_iff y (place y)).1 le_rfl
  apply (place_le_iff x (place y)).2
  rcases hSelf with hBelow | ⟨hTie, hEven⟩
  · left
    linarith
  · rcases lt_or_eq_of_le h with hLess | rfl
    · left
      linarith
    · exact .inr ⟨hTie, hEven⟩

/-- A representable value has its own place. -/
theorem place_valueAt (i : ℕ) : place (valueAt i) = i := by
  apply le_antisymm
  · apply (place_le_iff _ i).2
    left
    have hNext := valueAt_strictMono (Nat.lt_succ_self i)
    linarith
  · by_contra hMore
    rw [not_le] at hMore
    have hNext := valueAt_strictMono.monotone (Nat.succ_le_of_lt hMore)
    have hHere := valueAt_strictMono hMore
    rcases (place_le_iff _ _).1 (le_refl (place (valueAt i))) with hBelow | ⟨hTie, -⟩
    · linarith
    · linarith

theorem place_zero : place 0 = 0 := by
  rw [← valueAt_zero, place_valueAt]

/-! ## Signs -/

theorem Magnitude.value_eq_zero_iff (m : Magnitude) : m.value = 0 ↔ m.index = 0 := by
  rw [m.value_eq, ← valueAt_zero, valueAt_strictMono.injective.eq_iff]

theorem Magnitude.value_nonneg (m : Magnitude) : 0 ≤ m.value := valueAt_nonneg m.index

namespace Binary64

variable {x : Binary64}

theorem exists_eq_finite (h : x.isFinite = true) :
    ∃ negative m, x = finite negative m := by
  cases x with
  | finite negative m => exact ⟨negative, m, rfl⟩
  | infinite negative => cases h
  | nan => cases h

theorem isZero_iff (hFinite : x.isFinite = true) : x.isZero = true ↔ x.exact = 0 := by
  obtain ⟨negative, m, rfl⟩ := exists_eq_finite hFinite
  have hZero := m.value_eq_zero_iff
  cases negative <;> simp [isZero, exact, hZero]

theorem isBelowZero_iff (hFinite : x.isFinite = true) :
    x.isBelowZero = true ↔ x.exact < 0 := by
  obtain ⟨negative, m, rfl⟩ := exists_eq_finite hFinite
  have hSign := m.value_nonneg
  have hPos : 0 < m.value ↔ ¬ m.index = 0 := by
    rw [← m.value_eq_zero_iff]
    exact lt_iff_le_and_ne.trans ⟨fun h => h.2.symm, fun h => ⟨hSign, Ne.symm h⟩⟩
  cases negative
  · simp [isBelowZero, exact, hSign]
  · simp [isBelowZero, exact, hPos]

theorem isAtMostZero_iff (hFinite : x.isFinite = true) :
    x.isAtMostZero = true ↔ x.exact ≤ 0 := by
  rw [isAtMostZero, Bool.or_eq_true, isZero_iff hFinite, isBelowZero_iff hFinite,
    le_iff_lt_or_eq, or_comm]

end Binary64

/-! ## Decimals -/

/-- The number under the given sign with the given place; infinite from
`indexLimit` on. -/
def Binary64.ofPlace (negative : Bool) (i : ℕ) : Binary64 :=
  if h : i < indexLimit then .finite negative ⟨i, h⟩ else .infinite negative

theorem Binary64.ofPlace_of_lt (negative : Bool) {i : ℕ} (h : i < indexLimit) :
    ofPlace negative i = .finite negative ⟨i, h⟩ := dif_pos h

theorem Binary64.isFinite_ofPlace_iff {negative : Bool} {i : ℕ} :
    (ofPlace negative i).isFinite = true ↔ i < indexLimit := by
  unfold ofPlace
  split
  next h => simp [isFinite, h]
  next h => simp [isFinite, h]

/-- The value of a decimal without its sign. -/
def Decimal.magnitude (d : Decimal) : ℚ := d.units.natAbs / 10 ^ d.places

/-- A quotient of whole numbers is rounded at its value. -/
theorem Binary64.ofRatio_eq (negative : Bool) (a : ℕ) {b : ℕ} (hb : 0 < b) :
    ofRatio negative a b = .ofPlace negative (place (a / b)) := by
  have hDen : (b : ℚ) ≠ 0 := by exact_mod_cast hb.ne'
  have hOne := unitsPerOne_rat_pos
  have hFraction : ((a * unitsPerOne : ℕ) : ℚ) / (b * unitsPerOne) = a / b := by
    push_cast
    field_simp
  rw [← hFraction, ← nearestIndex_eq_place _ hb]
  rfl

/-- **Reading a decimal rounds its exact value.** -/
theorem Decimal.toBinary64_eq (d : Decimal) :
    d.toBinary64 = .ofPlace (decide (d.units < 0)) (place d.magnitude) := by
  have hDen : 0 < 10 ^ d.places := Nat.pow_pos (by decide)
  rw [Decimal.toBinary64, Binary64.ofRatio_eq _ _ hDen, Decimal.magnitude]
  push_cast
  rfl

end DeskCalc
