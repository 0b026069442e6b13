import DeskCalc.Convert.Amount
import DeskCalc.Convert.MeasureUnit
import DeskCalc.Expr.Display

/-!
# The converter

The converter holds a category, the amount as typed and the two units between
which it converts. Its result is always a text: a placeholder stands where
there is no amount or no finite result.
-/

namespace DeskCalc

/-- What the converter holds. -/
structure Converter where
  category : Category
  amount : Text
  source : MeasureUnit
  target : MeasureUnit
deriving DecidableEq, Repr

namespace Converter

/-- One metre in feet. -/
def start : Converter := ⟨.length, ['1'], .metre, .foot⟩

/-- The places shown of a converted amount. -/
def places : Nat := 6

/-- What stands in place of a missing result. -/
def placeholder : Text := ['-', '-', '-']

/-- Change the category and start again from its first two units. -/
def chooseCategory (c : Converter) (category : Category) : Converter :=
  { c with
    category := category
    source := category.defaultPair.1
    target := category.defaultPair.2 }

/-- The converted amount, if there is a finite amount to convert and its
conversion is finite. -/
def result? (c : Converter) : Option Text := do
  let amount ← Amount.read? c.amount.trim
  if amount.isFinite then
    let converted ← (Conversion.convert amount c.source c.target).toOption
    (Display.write converted places).toOption
  else none

/-- The text shown as the result. -/
def result (c : Converter) : Text := c.result?.getD placeholder

/-- Both units belong to the category chosen. -/
def Consistent (c : Converter) : Prop :=
  c.source.category = c.category ∧ c.target.category = c.category

theorem consistent_start : start.Consistent := ⟨rfl, rfl⟩

/-- Choosing a category leaves no unit of another one behind. -/
theorem consistent_chooseCategory (c : Converter) (category : Category) :
    (c.chooseCategory category).Consistent := by
  cases category <;> exact ⟨rfl, rfl⟩

end Converter

end DeskCalc
