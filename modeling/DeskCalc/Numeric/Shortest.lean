import DeskCalc.Numeric.Decimal

/-!
# The shortest decimal that reads back

Among the decimals whose nearest double-precision number is a given one, the
shortest has the fewest digits; of several with that many digits it is the one
closest to the exact value, and of two equally close ones the larger.

Every magnitude is a whole number of units of `10 ^ -1074`. Grid `j` holds the
multiples of `10 ^ j` such units, so a coarser grid means fewer digits. The
search goes from the grid just above the leading digit to finer ones and stops
at the first that has a neighbour of the exact value reading back. Grid `0`
holds the exact value itself, which is why the search always ends.
-/

namespace DeskCalc.Magnitude

/-- The exact value in units of `10 ^ -1074`. -/
def decimalUnits (m : Magnitude) : Nat := m.units * 5 ^ unitExponent

/-- The `c`-th point of grid `j` has `m` as its nearest magnitude. -/
def readsBack (m : Magnitude) (j c : Nat) : Bool :=
  nearestIndex (c * 10 ^ j) (5 ^ unitExponent) == m.index

/-- Of the two whole numbers around `exact / spacing` the one that `fits`: the
closer one if both do, the upper one on a tie. -/
def neighbour? (fits : Nat → Bool) (exact spacing : Nat) : Option Nat :=
  let lower := exact / spacing
  let upper := lower + 1
  match fits lower, fits upper with
  | true, true => some (if 2 * (exact % spacing) < spacing then lower else upper)
  | true, false => some lower
  | false, true => some upper
  | false, false => none

/-- The point of grid `j` to write for `m`: a neighbour of the exact value that
reads back. -/
def gridPoint? (m : Magnitude) (j : Nat) : Option Nat :=
  neighbour? (m.readsBack j) m.decimalUnits (10 ^ j)

/-- The first grid from `j` down on which `point?` finds a point, with that
point; grid `0` has `last`. -/
def coarsest (point? : Nat → Option Nat) (last : Nat) : Nat → Nat × Nat
  | 0 => (0, last)
  | j + 1 =>
      match point? (j + 1) with
      | some c => (j + 1, c)
      | none => coarsest point? last j

/-- The `c`-th point of grid `j` as a decimal without superfluous places. -/
def gridDecimal (j c : Nat) : Decimal :=
  ⟨(c * 10 ^ (j - unitExponent) : Nat), unitExponent - j⟩

/-- The shortest decimal that reads back. -/
def shortest (m : Magnitude) : Decimal :=
  if m.index = 0 then ⟨0, 0⟩
  else
    let point := coarsest m.gridPoint? m.decimalUnits (Digits.count m.decimalUnits)
    gridDecimal point.1 point.2

end DeskCalc.Magnitude

namespace DeskCalc.Binary64

/-- The shortest writing that reads back, in positional notation. -/
def text : Binary64 → Text
  | .finite negative m =>
      let digits := m.shortest.write
      if negative then '-' :: digits else digits
  | .infinite negative => if negative then "-inf".toList else "inf".toList
  | .nan => "NaN".toList

end DeskCalc.Binary64
