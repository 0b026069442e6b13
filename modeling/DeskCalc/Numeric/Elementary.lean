import DeskCalc.Numeric.Binary64

/-!
# Elementary functions

Square root, trigonometric functions, logarithms and powers are the ones of the
mathematical library of the machine. They are reached through the interchange
encoding, so the rest of the library never sees another representation.
-/

namespace DeskCalc.Binary64

/-- The machine's own number with the same encoding. -/
def toMachine (x : Binary64) : Float := Float.ofBits x.toBits

/-- The number with the encoding of a machine number. -/
def ofMachine (x : Float) : Binary64 := ofBits x.toBits

/-- A function of one machine number. -/
def lift (f : Float → Float) (x : Binary64) : Binary64 := ofMachine (f x.toMachine)

/-- Square root. -/
def sqrt : Binary64 → Binary64 := lift Float.sqrt

/-- Sine of an angle in radians. -/
def sin : Binary64 → Binary64 := lift Float.sin

/-- Cosine of an angle in radians. -/
def cos : Binary64 → Binary64 := lift Float.cos

/-- Tangent of an angle in radians. -/
def tan : Binary64 → Binary64 := lift Float.tan

/-- Logarithm to base ten. -/
def log10 : Binary64 → Binary64 := lift Float.log10

/-- Natural logarithm. -/
def ln : Binary64 → Binary64 := lift Float.log

/-- `x` raised to the power `y`. -/
def pow (x y : Binary64) : Binary64 := ofMachine (Float.pow x.toMachine y.toMachine)

end DeskCalc.Binary64
