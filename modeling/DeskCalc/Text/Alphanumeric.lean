import DeskCalc.Text.Alphabetic
import DeskCalc.Text.NumberSign

/-!
# Letters and numbers

A character is alphanumeric when it is a letter or a number sign of some script.
-/

namespace DeskCalc.Text

/-- The character is a letter or a number sign of some script. -/
def isAlphanumeric (c : Char) : Bool := isAlphabetic c || isNumberSign c

end DeskCalc.Text
