import DeskCalc.Proofs.Numeric.Rounding

/-!
# The four operations as roundings

A finite sum, difference, product or quotient is the exact one, rounded once.
`nearestValue` is that rounding as a function of the exact value, over both signs,
and it keeps the order. So with one operand held fast every operation keeps the
order of its results as far as exact arithmetic does.

An operand that is not finite never leads back to a finite sum, difference or
product, nor to a finite quotient if it is divided. This makes the property one that
composes: `Rising` functions take the order through any number of rounded steps,
and nothing needs to be said of the numbers between.

## Main results

* `nearestValue_mono` — rounding keeps the order.
* `Binary64.exact_add`, `exact_mul`, `exact_div` — the operations round their exact
  results; a difference is a sum.
* `Binary64.Rising.comp`, `rising_add`, `rising_sub`, `rising_mul`, `rising_div` —
  steps that keep the order.
-/

namespace DeskCalc

/-! ## Rounding over both signs -/

theorem place_of_nonpos {q : ℚ} (h : q ≤ 0) : place q = 0 :=
  Nat.le_zero.1 (place_zero ▸ place_mono h)

/-- The value of the number nearest to `q`. One of the two places is zero. -/
def nearestValue (q : ℚ) : ℚ := valueAt (place q) - valueAt (place (-q))

theorem nearestValue_neg (q : ℚ) : nearestValue (-q) = -nearestValue q := by
  rw [nearestValue, nearestValue, neg_neg, neg_sub]

theorem nearestValue_of_nonneg {q : ℚ} (h : 0 ≤ q) : nearestValue q = valueAt (place q) := by
  rw [nearestValue, place_of_nonpos (neg_nonpos.2 h), valueAt_zero, sub_zero]

theorem nearestValue_zero : nearestValue 0 = 0 := by
  rw [nearestValue, neg_zero, sub_self]

/-- **Rounding keeps the order.** -/
theorem nearestValue_mono : Monotone nearestValue := by
  intro p q h
  have hUp := valueAt_strictMono.monotone (place_mono h)
  have hDown := valueAt_strictMono.monotone (place_mono (neg_le_neg h))
  unfold nearestValue
  linarith

/-- The value `q` under a sign. -/
def signed (negative : Bool) (q : ℚ) : ℚ := if negative then -q else q

theorem signed_xor_mul (a b : Bool) (p q : ℚ) :
    signed (a != b) (p * q) = signed a p * signed b q := by
  cases a <;> cases b <;> simp [signed]

theorem signed_xor_div (a b : Bool) (p q : ℚ) :
    signed (a != b) (p / q) = signed a p / signed b q := by
  cases a <;> cases b <;> simp [signed, neg_div, div_neg]

/-- A whole number of units is its magnitude under its sign. -/
theorem signed_natAbs_div (sum : ℤ) (q : ℚ) :
    signed (decide (sum < 0)) ((sum.natAbs : ℚ) / q) = sum / q := by
  rw [Nat.cast_natAbs, signed]
  rcases lt_or_ge sum 0 with h | h
  · rw [decide_eq_true h, if_pos rfl, abs_of_neg h, Int.cast_neg, neg_div, neg_neg]
  · rw [decide_eq_false (not_lt.2 h), if_neg Bool.false_ne_true, abs_of_nonneg h]

theorem Magnitude.units_pos {m : Magnitude} (h : m.index ≠ 0) : 0 < m.units := by
  rw [Nat.pos_iff_ne_zero]
  intro hUnits
  apply h
  rw [← m.value_eq_zero_iff, value, hUnits, Nat.cast_zero, zero_div]

namespace Binary64

/-! ## The operations -/

theorem exact_finite (negative : Bool) (m : Magnitude) :
    (finite negative m).exact = signed negative m.value := rfl

/-- A quotient of units is rounded under its sign. -/
theorem exact_ofUnits {negative : Bool} {a b : ℕ} (hb : 0 < b)
    (h : (ofUnits negative a b).isFinite = true) :
    (ofUnits negative a b).exact = nearestValue (signed negative (a / (b * unitsPerOne))) := by
  have hSign : (0 : ℚ) ≤ a / (b * unitsPerOne) :=
    div_nonneg (Nat.cast_nonneg a) (mul_nonneg (Nat.cast_nonneg b) unitsPerOne_rat_pos.le)
  have hPlace : ofUnits negative a b = ofPlace negative (place (a / (b * unitsPerOne))) := by
    rw [← nearestIndex_eq_place a hb]
    rfl
  rw [hPlace] at h ⊢
  rw [ofPlace_of_lt negative (isFinite_ofPlace_iff.1 h)]
  cases negative with
  | false => exact (nearestValue_of_nonneg hSign).symm
  | true =>
      show -valueAt _ = nearestValue (-_)
      rw [nearestValue_neg, nearestValue_of_nonneg hSign]

theorem exact_zero (negative : Bool) : (zero negative).exact = 0 := by
  have hValue : Magnitude.zero.value = 0 := Magnitude.zero.value_eq_zero_iff.2 rfl
  cases negative <;> simp [zero, exact, hValue]

section Finite

variable (a b : Bool) (m n : Magnitude)

theorem finite_add :
    finite a m + finite b n =
      if signedUnits a m + signedUnits b n = 0 then zero (a && b)
      else
        ofUnits (decide (signedUnits a m + signedUnits b n < 0))
          (signedUnits a m + signedUnits b n).natAbs 1 :=
  rfl

theorem finite_mul :
    finite a m * finite b n = ofUnits (a != b) (m.units * n.units) unitsPerOne := by
  -- by its equation, since unfolding by computation would not stop at `unitsPerOne`
  show mul _ _ = _
  rw [mul]

theorem finite_div :
    finite a m / finite b n =
      if n.index = 0 then if m.index = 0 then .nan else .infinite (a != b)
      else ofUnits (a != b) (m.units * unitsPerOne) n.units :=
  rfl

end Finite

section Operations

variable {x y : Binary64}

/-- Both terms of a finite sum are finite. -/
theorem isFinite_of_add (h : (x + y).isFinite = true) :
    x.isFinite = true ∧ y.isFinite = true := by
  cases x with
  | finite a m =>
      cases y with
      | finite b n => exact ⟨rfl, rfl⟩
      | infinite b => cases h
      | nan => cases h
  | infinite a =>
      cases y with
      | finite b n => cases h
      | infinite b => cases a <;> cases b <;> cases h
      | nan => cases h
  | nan => cases h

/-- Both factors of a finite product are finite. -/
theorem isFinite_of_mul (h : (x * y).isFinite = true) :
    x.isFinite = true ∧ y.isFinite = true := by
  have hEither (b : Bool) (i : ℕ) : (if i = 0 then nan else infinite b).isFinite = false := by
    split <;> rfl
  cases x with
  | finite a m =>
      cases y with
      | finite b n => exact ⟨rfl, rfl⟩
      | infinite b => exact absurd h (by rw [Bool.not_eq_true]; exact hEither _ _)
      | nan => cases h
  | infinite a =>
      cases y with
      | finite b n => exact absurd h (by rw [Bool.not_eq_true]; exact hEither _ _)
      | infinite b => cases h
      | nan => cases h
  | nan => cases h

/-- The dividend of a finite quotient is finite, if the divisor is. -/
theorem isFinite_of_div (hy : y.isFinite = true) (h : (x / y).isFinite = true) :
    x.isFinite = true := by
  obtain ⟨b, n, rfl⟩ := exists_eq_finite hy
  cases x with
  | finite a m => rfl
  | infinite a => cases h
  | nan => cases h

/-- **A finite sum is the exact sum, rounded.** -/
theorem exact_add (h : (x + y).isFinite = true) :
    (x + y).exact = nearestValue (x.exact + y.exact) := by
  obtain ⟨hx, hy⟩ := isFinite_of_add h
  obtain ⟨a, m, rfl⟩ := exists_eq_finite hx
  obtain ⟨b, n, rfl⟩ := exists_eq_finite hy
  rw [exact_eq a m, exact_eq b n, ← add_div, ← Int.cast_add]
  rw [finite_add] at h ⊢
  generalize signedUnits a m + signedUnits b n = sum at h ⊢
  split
  next hSum => rw [hSum, Int.cast_zero, zero_div, nearestValue_zero, exact_zero]
  next hSum =>
    rw [if_neg hSum] at h
    rw [exact_ofUnits Nat.one_pos h, Nat.cast_one, one_mul, signed_natAbs_div]

/-- **A finite product is the exact product, rounded.** -/
theorem exact_mul (h : (x * y).isFinite = true) :
    (x * y).exact = nearestValue (x.exact * y.exact) := by
  obtain ⟨hx, hy⟩ := isFinite_of_mul h
  obtain ⟨a, m, rfl⟩ := exists_eq_finite hx
  obtain ⟨b, n, rfl⟩ := exists_eq_finite hy
  rw [finite_mul] at h ⊢
  rw [exact_ofUnits unitsPerOne_pos h, exact_finite, exact_finite, ← signed_xor_mul,
    Magnitude.value, Magnitude.value, div_mul_div_comm, Nat.cast_mul]

/-- **A finite quotient of finite numbers is the exact quotient, rounded.** -/
theorem exact_div (hy : y.isFinite = true) (h : (x / y).isFinite = true) :
    (x / y).exact = nearestValue (x.exact / y.exact) := by
  have hOne := unitsPerOne_rat_pos.ne'
  obtain ⟨a, m, rfl⟩ := exists_eq_finite (isFinite_of_div hy h)
  obtain ⟨b, n, rfl⟩ := exists_eq_finite hy
  rw [finite_div] at h ⊢
  split at h
  next => split at h <;> cases h
  next hNonzero =>
    rw [if_neg hNonzero, exact_ofUnits (Magnitude.units_pos hNonzero) h, exact_finite,
      exact_finite, ← signed_xor_div, Magnitude.value, Magnitude.value,
      div_div_div_cancel_right₀ hOne, Nat.cast_mul, mul_div_mul_right _ _ hOne]

end Operations

/-! ## Steps that keep the order -/

/-- The function keeps the order of its finite results, and of a number that is not
finite it makes no finite one. -/
structure Rising (f : Binary64 → Binary64) : Prop where
  isFinite_of : ∀ {x}, (f x).isFinite = true → x.isFinite = true
  mono : ∀ {x y}, (f x).isFinite = true → (f y).isFinite = true → x.exact ≤ y.exact →
    (f x).exact ≤ (f y).exact

theorem rising_id : Rising id where
  isFinite_of h := h
  mono _ _ h := h

theorem Rising.comp {f g : Binary64 → Binary64} (hg : Rising g) (hf : Rising f) :
    Rising fun x => g (f x) where
  isFinite_of h := hf.isFinite_of (hg.isFinite_of h)
  mono hx hy h := hg.mono hx hy (hf.mono (hg.isFinite_of hx) (hg.isFinite_of hy) h)

section Constants

variable {c : Binary64}

theorem rising_add (c : Binary64) : Rising (· + c) where
  isFinite_of h := (isFinite_of_add h).1
  mono hx hy h := by
    rw [exact_add hx, exact_add hy]
    exact nearestValue_mono (add_le_add_left h _)

theorem rising_sub (c : Binary64) : Rising (· - c) := rising_add (-c)

theorem rising_mul (hc : 0 ≤ c.exact) : Rising (· * c) where
  isFinite_of h := (isFinite_of_mul h).1
  mono hx hy h := by
    rw [exact_mul hx, exact_mul hy]
    exact nearestValue_mono (mul_le_mul_of_nonneg_right h hc)

theorem rising_div (hFinite : c.isFinite = true) (hc : 0 ≤ c.exact) : Rising (· / c) where
  isFinite_of h := isFinite_of_div hFinite h
  mono hx hy h := by
    rw [exact_div hFinite hx, exact_div hFinite hy]
    exact nearestValue_mono (div_le_div_of_nonneg_right h hc)

end Constants

end Binary64

end DeskCalc
