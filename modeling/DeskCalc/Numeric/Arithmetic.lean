import DeskCalc.Numeric.Binary64

/-!
# Arithmetic on double-precision numbers

The four operations compute exactly on units of `2 ^ -1074` and round once, to
the nearest number with ties to even. Signs of zeros, infinities and "not a
number" follow the usual rules of binary floating point: an exact sum of zero
is positive unless both terms are negative, a product or quotient is negative
when exactly one operand is.
-/

namespace DeskCalc.Binary64

/-- The number with its sign changed; zero and infinity too. -/
def neg : Binary64 → Binary64
  | .finite negative m => .finite (!negative) m
  | .infinite negative => .infinite (!negative)
  | .nan => .nan

/-- The number without its sign. -/
def abs : Binary64 → Binary64
  | .finite _ m => .finite false m
  | .infinite _ => .infinite false
  | .nan => .nan

/-- The exact value of a signed finite magnitude in units of `2 ^ -1074`. -/
def signedUnits (negative : Bool) (m : Magnitude) : Int :=
  if negative then -(m.units : Int) else (m.units : Int)

/-- The sum, rounded to nearest. -/
def add : Binary64 → Binary64 → Binary64
  | .nan, _ => .nan
  | _, .nan => .nan
  | .infinite a, .infinite b => if a = b then .infinite a else .nan
  | .infinite a, .finite _ _ => .infinite a
  | .finite _ _, .infinite b => .infinite b
  | .finite a m, .finite b n =>
      let sum := signedUnits a m + signedUnits b n
      if sum = 0 then zero (a && b) else ofUnits (decide (sum < 0)) sum.natAbs 1

/-- The difference, rounded to nearest. -/
def sub (x y : Binary64) : Binary64 := add x (neg y)

/-- The product, rounded to nearest. -/
def mul : Binary64 → Binary64 → Binary64
  | .nan, _ => .nan
  | _, .nan => .nan
  | .infinite a, .infinite b => .infinite (a != b)
  | .infinite a, .finite b n => if n.index = 0 then .nan else .infinite (a != b)
  | .finite a m, .infinite b => if m.index = 0 then .nan else .infinite (a != b)
  | .finite a m, .finite b n => ofUnits (a != b) (m.units * n.units) unitsPerOne

/-- The quotient, rounded to nearest. -/
def div : Binary64 → Binary64 → Binary64
  | .nan, _ => .nan
  | _, .nan => .nan
  | .infinite _, .infinite _ => .nan
  | .infinite a, .finite b _ => .infinite (a != b)
  | .finite a _, .infinite b => zero (a != b)
  | .finite a m, .finite b n =>
      if n.index = 0 then
        if m.index = 0 then .nan else .infinite (a != b)
      else ofUnits (a != b) (m.units * unitsPerOne) n.units

instance : Add Binary64 := ⟨add⟩
instance : Sub Binary64 := ⟨sub⟩
instance : Mul Binary64 := ⟨mul⟩
instance : Div Binary64 := ⟨div⟩
instance : Neg Binary64 := ⟨neg⟩

@[simp] theorem isFinite_neg (x : Binary64) : (neg x).isFinite = x.isFinite := by
  cases x <;> rfl

end DeskCalc.Binary64
