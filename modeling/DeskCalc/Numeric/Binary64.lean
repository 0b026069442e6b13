/-!
# The double-precision numbers

A finite magnitude is identified by its place in the increasing list of all
representable magnitudes: magnitude `0` is zero, magnitude `1` the least
positive one, and so on up to `indexLimit`. The place is also the integer that
the low 63 bits of the number's interchange encoding spell, so that no field
has to be packed or unpacked.

Every finite magnitude is a whole number of *units* of `2 ^ -1074`. All
rounding is done in exact natural-number arithmetic on units: `nearestIndex`
takes any fraction of units to the nearest place, ties to the even one.
-/

namespace DeskCalc

/-- Powers of natural numbers are the core library's, also where an algebraic
hierarchy in scope has another reading of them. -/
@[default_instance 20000]
instance (priority := 20000) natPow : Pow Nat Nat := instPowNat

/-- Powers of integers are the core library's too. -/
@[default_instance 10000]
instance (priority := 20000) intPow : Pow Int Nat := instPowNat

/-- The number of finite magnitudes. -/
def indexLimit : Nat := 2047 * 2 ^ 52

/-- A finite magnitude, given by its place in the increasing list of them. -/
structure Magnitude where
  /-- How many representable magnitudes are smaller. -/
  index : Nat
  index_lt : index < indexLimit
deriving DecidableEq, Repr

namespace Magnitude

/-- The magnitude zero. -/
def zero : Magnitude := ⟨0, by decide⟩

/-- Magnitudes come in blocks of `2 ^ 52`; inside one block neighbours are
`2 ^ scale` units apart. The first two blocks share the scale zero. -/
def scale (m : Magnitude) : Nat := m.index / 2 ^ 52 - 1

/-- The whole number that, times `2 ^ scale`, counts the units. -/
def significand (m : Magnitude) : Nat := m.index - m.scale * 2 ^ 52

/-- The exact value in units of `2 ^ -1074`. -/
def units (m : Magnitude) : Nat := m.significand * 2 ^ m.scale

end Magnitude

/-- One unit is `2 ^ -1074`. -/
def unitExponent : Nat := 1074

/-- The number of units in one. -/
def unitsPerOne : Nat := 2 ^ unitExponent

theorem two_pow_mul_unitsPerOne (n : Nat) : 2 ^ n * unitsPerOne = 2 ^ (n + unitExponent) :=
  (Nat.pow_add 2 n unitExponent).symm

theorem unitsPerOne_pos : 0 < unitsPerOne := Nat.two_pow_pos unitExponent

/-- The whole number nearest to `a / b`; a tie goes to the even neighbour. -/
def nearestEven (a b : Nat) : Nat :=
  let quotient := a / b
  let remainder := a % b
  if 2 * remainder < b then quotient
  else if b < 2 * remainder then quotient + 1
  else quotient + quotient % 2

/-- The place nearest to `a / b` units, ties to the even one. Places from
`indexLimit` on lie beyond the finite magnitudes. -/
def nearestIndex (a b : Nat) : Nat :=
  let scale := (a / b).log2 - 52
  scale * 2 ^ 52 + nearestEven a (b * 2 ^ scale)

/-- A double-precision number. All encodings of "not a number" are one. -/
inductive Binary64 where
  | finite (negative : Bool) (magnitude : Magnitude)
  | infinite (negative : Bool)
  | nan
deriving DecidableEq, Repr

namespace Binary64

/-- Zero with the given sign. -/
def zero (negative : Bool) : Binary64 := .finite negative .zero

/-- The number nearest to `a / b` units under the given sign; beyond the finite
magnitudes it is infinite. -/
def ofUnits (negative : Bool) (a b : Nat) : Binary64 :=
  let index := nearestIndex a b
  if h : index < indexLimit then .finite negative ⟨index, h⟩
  else .infinite negative

/-- The number nearest to `a / b` under the given sign. -/
def ofRatio (negative : Bool) (a b : Nat) : Binary64 :=
  ofUnits negative (a * unitsPerOne) b

/-- Neither infinite nor "not a number". -/
def isFinite : Binary64 → Bool
  | .finite _ _ => true
  | _ => false

/-- Zero of either sign. -/
def isZero : Binary64 → Bool
  | .finite _ m => m.index == 0
  | _ => false

/-- Strictly below zero. -/
def isBelowZero : Binary64 → Bool
  | .finite negative m => negative && m.index != 0
  | .infinite negative => negative
  | .nan => false

/-- At most zero; "not a number" is not. -/
def isAtMostZero (x : Binary64) : Bool := x.isZero || x.isBelowZero

/-- The number whose interchange encoding is the 64-bit word `word`. -/
def ofBits (word : UInt64) : Binary64 :=
  let negative := decide (2 ^ 63 ≤ word.toNat)
  let index := word.toNat % 2 ^ 63
  if h : index < indexLimit then .finite negative ⟨index, h⟩
  else if index = indexLimit then .infinite negative
  else .nan

/-- The interchange encoding; "not a number" has the quiet positive one. -/
def toBits : Binary64 → UInt64
  | .finite negative m => UInt64.ofNat ((if negative then 2 ^ 63 else 0) + m.index)
  | .infinite negative => UInt64.ofNat ((if negative then 2 ^ 63 else 0) + indexLimit)
  | .nan => UInt64.ofNat (indexLimit + 2 ^ 51)

end Binary64

end DeskCalc
