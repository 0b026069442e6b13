import DeskCalc.Expr.Evaluation

/-!
# Displayed results

A result is rounded, from its exact binary value, to a number of decimal places
with halves away from zero. What is shown is the shortest writing of the
double-precision number nearest to that decimal: where the numbers lie further
apart than the places reach, more digits would be noise.
-/

namespace DeskCalc.Display

/-- The places shown unless the settings say otherwise. -/
def defaultPlaces : Nat := 10

/-- Beyond this many places a double-precision number has nothing to show. -/
def maxPlaces : Nat := 15

/-- The exact value of a finite number rounded to `places` places. -/
def rounded (negative : Bool) (m : Magnitude) (places : Nat) : Decimal :=
  Decimal.round (Binary64.signedUnits negative m) unitsPerOne places

/-- The text shown for a number. -/
def write (x : Binary64) (places : Nat) : Except CalcError Text :=
  match x with
  | .finite negative m =>
      let decimal := rounded negative m (min places maxPlaces)
      if decimal.units = 0 then .ok ['0']
      else
        let shown := decimal.toBinary64
        if shown.isFinite then .ok shown.text else .error .notFinite
  | _ => .error .notFinite

/-- The text shown for the value of an expression. -/
def evaluate (s : Text) (places : Nat) : Except CalcError Text := do
  write (← DeskCalc.evaluate s) places

end DeskCalc.Display
