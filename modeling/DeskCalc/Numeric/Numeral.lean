import DeskCalc.Numeric.Decimal

/-!
# Reading numerals

A numeral is a run of decimal digits with at most one point among, before or
after them, and at least one digit. It names a decimal fraction exactly; the
double-precision number is the one nearest to that.
-/

namespace DeskCalc.Numeral

/-- The characters that a numeral may hold. -/
def isNumeric (c : Char) : Bool := c.isDigit || c == '.'

/-- The decimal named by the digits `whole` before and `places` after a point. -/
def ofDigits (whole places : Text) : Decimal :=
  ⟨(Digits.read (whole ++ places) : Nat), places.length⟩

/-- The decimal that a text names, if it is a numeral. -/
def read? (s : Text) : Option Decimal :=
  let whole := s.takeWhile Char.isDigit
  match s.dropWhile Char.isDigit with
  | [] => if whole.isEmpty then none else some (ofDigits whole [])
  | point :: places =>
      if point = '.' ∧ places.all Char.isDigit ∧ ¬ (whole ++ places).isEmpty then
        some (ofDigits whole places)
      else none

end DeskCalc.Numeral
