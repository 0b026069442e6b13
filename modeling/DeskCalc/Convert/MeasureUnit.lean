import DeskCalc.Numeric.Decimal

/-!
# Units of measurement

Lengths and masses are multiples of a base unit, the metre and the kilogram, so
a conversion multiplies and divides by two factors. Temperatures differ in
their zero too and are converted by way of the Celsius scale. Every step is
rounded as it is computed.
-/

namespace DeskCalc

/-- What a unit measures. -/
inductive Category where
  | length | mass | temperature
deriving DecidableEq, Repr

/-- The units known to the converter. -/
inductive MeasureUnit where
  | metre | kilometre | centimetre | millimetre | inch | foot | yard | mile
  | kilogram | gram | milligram | pound | ounce
  | celsius | fahrenheit | kelvin
deriving DecidableEq, Repr

namespace Category

/-- All categories, in the order in which they are offered. -/
def all : List Category := [.length, .mass, .temperature]

/-- The name that a category is offered under. -/
def label : Category → String
  | .length => "longueur"
  | .mass => "masse"
  | .temperature => "température"

/-- The units of a category, in the order in which they are offered. -/
def units : Category → List MeasureUnit
  | .length =>
      [.metre, .kilometre, .centimetre, .millimetre, .inch, .foot, .yard, .mile]
  | .mass => [.kilogram, .gram, .milligram, .pound, .ounce]
  | .temperature => [.celsius, .fahrenheit, .kelvin]

/-- The two units that a category starts with, its first two. -/
def defaultPair : Category → MeasureUnit × MeasureUnit
  | .length => (.metre, .kilometre)
  | .mass => (.kilogram, .gram)
  | .temperature => (.celsius, .fahrenheit)

/-- The category offered under a name. -/
def ofLabel? (label : String) : Option Category := all.find? fun c => c.label == label

end Category

namespace MeasureUnit

/-- What the unit measures. -/
def category : MeasureUnit → Category
  | .metre | .kilometre | .centimetre | .millimetre | .inch | .foot | .yard | .mile =>
      .length
  | .kilogram | .gram | .milligram | .pound | .ounce => .mass
  | .celsius | .fahrenheit | .kelvin => .temperature

/-- The symbol written after an amount. -/
def symbol : MeasureUnit → String
  | .metre => "m"
  | .kilometre => "km"
  | .centimetre => "cm"
  | .millimetre => "mm"
  | .inch => "in"
  | .foot => "ft"
  | .yard => "yd"
  | .mile => "mi"
  | .kilogram => "kg"
  | .gram => "g"
  | .milligram => "mg"
  | .pound => "lb"
  | .ounce => "oz"
  | .celsius => "C"
  | .fahrenheit => "F"
  | .kelvin => "K"

/-- The name that a unit is offered under. -/
def label : MeasureUnit → String
  | .metre => "Mètres"
  | .kilometre => "Kilomètres"
  | .centimetre => "Centimètres"
  | .millimetre => "Millimètres"
  | .inch => "Pouces"
  | .foot => "Pieds"
  | .yard => "Yards"
  | .mile => "Miles"
  | .kilogram => "Kilogrammes"
  | .gram => "Grammes"
  | .milligram => "Milligrammes"
  | .pound => "Livres"
  | .ounce => "Onces"
  | .celsius => "Celsius"
  | .fahrenheit => "Fahrenheit"
  | .kelvin => "Kelvin"

/-- The code of a unit in an error, its symbol with a capital. -/
def code (u : MeasureUnit) : String := u.symbol.capitalize

/-- How many base units one unit is. A temperature scale is not a multiple of
another and has no factor. -/
def factor? : MeasureUnit → Option Decimal
  | .metre => some ⟨1, 0⟩
  | .kilometre => some ⟨1000, 0⟩
  | .centimetre => some ⟨1, 2⟩
  | .millimetre => some ⟨1, 3⟩
  | .inch => some ⟨254, 4⟩
  | .foot => some ⟨3048, 4⟩
  | .yard => some ⟨9144, 4⟩
  | .mile => some ⟨160934, 2⟩
  | .kilogram => some ⟨1, 0⟩
  | .gram => some ⟨1, 3⟩
  | .milligram => some ⟨1, 6⟩
  | .pound => some ⟨453592, 6⟩
  | .ounce => some ⟨283495, 7⟩
  | .celsius | .fahrenheit | .kelvin => none

/-- All units, category by category. -/
def all : List MeasureUnit := Category.all.flatMap Category.units

/-- The unit with a given symbol. -/
def ofSymbol? (symbol : String) : Option MeasureUnit := all.find? fun u => u.symbol == symbol

/-- A unit is offered by its own category and by no other. -/
theorem mem_units_iff (u : MeasureUnit) (c : Category) : u ∈ c.units ↔ u.category = c := by
  cases u <;> cases c <;> decide

end MeasureUnit

/-- Two units that measure different things. -/
structure IncompatibleUnits where
  source : MeasureUnit
  target : MeasureUnit
deriving DecidableEq, Repr

/-- The wording of a refused conversion. -/
def IncompatibleUnits.message (e : IncompatibleUnits) : String :=
  "catégories incompatibles: " ++ e.source.code ++ " -> " ++ e.target.code

namespace Conversion

/-- A whole number as an operand. -/
def whole (n : Nat) : Binary64 := Decimal.toBinary64 ⟨n, 0⟩

/-- The freezing point of water on the Kelvin scale. -/
def freezingPoint : Binary64 := Decimal.toBinary64 ⟨27315, 2⟩

/-- A temperature on the Celsius scale. -/
def toCelsius (x : Binary64) : MeasureUnit → Binary64
  | .fahrenheit => (x - whole 32) * whole 5 / whole 9
  | .kelvin => x - freezingPoint
  | _ => x

/-- A temperature from the Celsius scale. -/
def ofCelsius (x : Binary64) : MeasureUnit → Binary64
  | .fahrenheit => x * whole 9 / whole 5 + whole 32
  | .kelvin => x + freezingPoint
  | _ => x

/-- The same quantity in another unit of its category. Equal units leave the
amount as it is. -/
def convert (x : Binary64) (source target : MeasureUnit) :
    Except IncompatibleUnits Binary64 :=
  if source.category ≠ target.category then .error ⟨source, target⟩
  else if source = target then .ok x
  else
    match source.factor?, target.factor? with
    | some a, some b => .ok (x * a.toBinary64 / b.toBinary64)
    | _, _ => .ok (ofCelsius (toCelsius x source) target)

/-- A conversion is refused exactly when the units measure different things. -/
theorem convert_eq_error_iff (x : Binary64) (source target : MeasureUnit)
    (e : IncompatibleUnits) :
    convert x source target = .error e ↔
      source.category ≠ target.category ∧ e = ⟨source, target⟩ := by
  unfold convert
  by_cases h : source.category = target.category
  · by_cases hSame : source = target
    · simp [hSame]
    · simp only [h, hSame, ne_eq, not_true_eq_false, if_false, false_and, iff_false]
      split <;> simp
  · simp [h, eq_comm]

end Conversion

end DeskCalc
