import DeskCalc.Text.Digits
import DeskCalc.Numeric.Arithmetic

/-!
# Decimal fractions

A `Decimal` is a whole number of units of `10 ^ -places`. It is written in
positional notation, never with an exponent: a sign when it is below zero, the
whole part without superfluous zeros and, unless `places` is zero, a point and
exactly `places` digits.

`Decimal.round` takes a fraction to a decimal with a given number of places,
halves away from zero, and `toBinary64` takes a decimal to the nearest
double-precision number.

## Main results

* `roundHalfAway_neg` — rounding treats both signs alike.
* `Decimal.read_unsigned` — the digits written name the units.
-/

namespace DeskCalc

/-- The whole number nearest to `a / b`; a half goes away from zero. -/
def roundHalfAway (a : Int) (b : Nat) : Int :=
  let magnitude := (2 * a.natAbs + b) / (2 * b)
  if a < 0 then -(magnitude : Int) else (magnitude : Int)

theorem roundHalfAway_neg (a : Int) (b : Nat) :
    roundHalfAway (-a) b = -roundHalfAway a b := by
  unfold roundHalfAway
  rw [Int.natAbs_neg]
  rcases Int.lt_trichotomy a 0 with h | h | h
  · have h1 : ¬ -a < 0 := by omega
    simp only [h, h1, if_true, if_false, Int.neg_neg]
  · subst h
    have : b / (2 * b) = 0 := by
      rcases Nat.eq_zero_or_pos b with hb | hb
      · simp [hb]
      · exact Nat.div_eq_of_lt (by omega)
    simp [this]
  · have h1 : -a < 0 := by omega
    have h2 : ¬ a < 0 := by omega
    simp only [h1, h2, if_true, if_false]

/-- The decimal fraction `units / 10 ^ places`. -/
structure Decimal where
  units : Int
  places : Nat
deriving DecidableEq, Repr

namespace Decimal

/-- The decimal with `places` places nearest to `a / b`, halves away from
zero. -/
def round (a : Int) (b : Nat) (places : Nat) : Decimal :=
  ⟨roundHalfAway (a * 10 ^ places) b, places⟩

/-- `units / 10 ^ places` in digits. -/
def writeUnsigned (units places : Nat) : Text :=
  let whole := Digits.write (units / 10 ^ places)
  if places = 0 then whole
  else whole ++ '.' :: Digits.writePadded places (units % 10 ^ places)

/-- The decimal in positional notation. -/
def write (d : Decimal) : Text :=
  let magnitude := writeUnsigned d.units.natAbs d.places
  if d.units < 0 then '-' :: magnitude else magnitude

/-- The nearest double-precision number. -/
def toBinary64 (d : Decimal) : Binary64 :=
  Binary64.ofRatio (decide (d.units < 0)) d.units.natAbs (10 ^ d.places)

/-- Splitting off `width` padded digits below a number keeps the number that
the digits name. -/
theorem read_append_writePadded (front : Text) (width n : Nat) (h : n < 10 ^ width) :
    Digits.read (front ++ Digits.writePadded width n) =
      Digits.read front * 10 ^ width + n := by
  induction width generalizing n with
  | zero =>
      have : n = 0 := by simpa using h
      simp [Digits.writePadded, this]
  | succ width ih =>
      have hDiv : n / 10 < 10 ^ width := by
        rw [Nat.div_lt_iff_lt_mul (by decide)]
        rwa [Nat.pow_succ] at h
      rw [Digits.writePadded, ← List.append_assoc, Digits.read_append_singleton, ih _ hDiv,
        Digits.value_char (Nat.mod_lt _ (by decide)), Nat.pow_succ, Nat.mul_add,
        ← Nat.mul_assoc]
      have : 10 * Digits.read front * 10 ^ width =
          Digits.read front * (10 ^ width * 10) := by
        rw [Nat.mul_comm 10, Nat.mul_assoc, Nat.mul_comm 10]
      omega

/-- **The digits written, the point left out, name the units.** -/
theorem read_unsigned (units places : Nat) :
    Digits.read
      (Digits.write (units / 10 ^ places) ++
        Digits.writePadded places (units % 10 ^ places)) = units := by
  rw [read_append_writePadded _ _ _ (Nat.mod_lt _ (Nat.pow_pos (by decide))),
    Digits.read_write]
  exact Nat.div_add_mod' units (10 ^ places)

end Decimal

end DeskCalc
