import DeskCalc.Proofs.Expr.DisplayOrder
import DeskCalc.Proofs.Numeric.Operation
import DeskCalc.Proofs.Session.Conversion

/-!
# A larger amount never shows a smaller result

A conversion is a chain of up to five operations with one operand held fast: a
factor above zero, or the zero of a temperature scale. Every step keeps the order of
its finite results, and so does the chain, in spite of its many roundings. The
display that follows keeps it too.

That the constants are above zero is all that is used of them. A step with a factor
below zero would turn the order round, and one with the factor zero would only
flatten it.

## Main results

* `Conversion.exists_rising` — a conversion keeps the order of its finite results.
* `conversion_keeps_order` — what the converter shows of two amounts.
-/

namespace DeskCalc

namespace Conversion

open Binary64 (Rising)

/-! ## The constants -/

/-- A finite number above zero. -/
structure Positive (c : Binary64) : Prop where
  isFinite : c.isFinite = true
  exact_pos : 0 < c.exact

theorem positive_of_test {c : Binary64} (h : (c.isFinite && !c.isAtMostZero) = true) :
    Positive c := by
  rw [Bool.and_eq_true, Bool.not_eq_true'] at h
  refine ⟨h.1, ?_⟩
  by_contra hNot
  rw [(Binary64.isAtMostZero_iff h.1).2 (not_lt.1 hNot)] at h
  cases h.2

theorem positive_factor {u : MeasureUnit} {d : Decimal} (h : u.factor? = some d) :
    Positive d.toBinary64 := by
  have hAll : (MeasureUnit.all.all fun u => u.factor?.all fun d =>
      d.toBinary64.isFinite && !d.toBinary64.isAtMostZero) = true := by
    decide +kernel
  have hMem : u ∈ MeasureUnit.all := by cases u <;> decide
  have hUnit := List.all_eq_true.1 hAll u hMem
  rw [h, Option.all_some] at hUnit
  exact positive_of_test hUnit

theorem positive_five : Positive (whole 5) := positive_of_test (by decide +kernel)

theorem positive_nine : Positive (whole 9) := positive_of_test (by decide +kernel)

/-! ## The steps of a conversion -/

theorem rising_toCelsius (u : MeasureUnit) : Rising (toCelsius · u) := by
  unfold toCelsius
  split
  · exact (Binary64.rising_div positive_nine.isFinite positive_nine.exact_pos.le).comp
      ((Binary64.rising_mul positive_five.exact_pos.le).comp (Binary64.rising_sub (whole 32)))
  · exact Binary64.rising_sub freezingPoint
  · exact Binary64.rising_id

theorem rising_ofCelsius (u : MeasureUnit) : Rising (ofCelsius · u) := by
  unfold ofCelsius
  split
  · exact (Binary64.rising_add (whole 32)).comp
      ((Binary64.rising_div positive_five.isFinite positive_five.exact_pos.le).comp
        (Binary64.rising_mul positive_nine.exact_pos.le))
  · exact Binary64.rising_add freezingPoint
  · exact Binary64.rising_id

/-- **A conversion keeps the order** of its finite results, through all its
roundings. -/
theorem exists_rising {source target : MeasureUnit} (h : source.category = target.category) :
    ∃ f, Rising f ∧ ∀ x, convert x source target = .ok (f x) := by
  by_cases hSame : source = target
  · refine ⟨id, Binary64.rising_id, fun x => ?_⟩
    rw [convert, if_neg (not_not_intro h), if_pos hSame]
    rfl
  have hScale := (rising_ofCelsius target).comp (rising_toCelsius source)
  cases hSource : source.factor? with
  | none =>
      refine ⟨_, hScale, fun x => ?_⟩
      rw [convert, if_neg (not_not_intro h), if_neg hSame, hSource]
  | some a =>
      cases hTarget : target.factor? with
      | none =>
          refine ⟨_, hScale, fun x => ?_⟩
          rw [convert, if_neg (not_not_intro h), if_neg hSame, hSource, hTarget]
      | some b =>
          have ha := positive_factor hSource
          have hb := positive_factor hTarget
          have hFactors := (Binary64.rising_div hb.isFinite hb.exact_pos.le).comp
            (Binary64.rising_mul ha.exact_pos.le)
          refine ⟨_, hFactors, fun x => ?_⟩
          rw [convert, if_neg (not_not_intro h), if_neg hSame, hSource, hTarget]

end Conversion

/-- The converter shows a number. -/
theorem Converter.named?_result {c : Converter} {x y : Binary64}
    (hNames : Amount.NamesFinite c.amount.trim x)
    (hConverted : Conversion.convert x c.source c.target = .ok y) (hFinite : y.isFinite = true) :
    Display.named? c.result = some (Display.writtenNumber y places) := by
  obtain ⟨s, hWrite, hNamed, -⟩ := Display.exists_write_named hFinite places
  have hResult := Converter.write_eq_result hNames hConverted hFinite
  rw [hWrite] at hResult
  rw [← Except.ok.inj hResult]
  exact hNamed

/-- **A larger amount never shows a smaller result.** Let the two units belong to one
category, of lengths, of masses or of temperatures, or be the same unit. Take the
texts of two finite amounts, the first not above the second, that are both converted
to finite numbers. Then the converter shows a number for either, and the first is not
above the second. -/
theorem conversion_keeps_order (c : Converter) (hUnits : c.source.category = c.target.category)
    (larger : Text) {x y x' y' : Binary64} (hx : Amount.NamesFinite c.amount.trim x)
    (hy : Amount.NamesFinite larger.trim y) (hOrder : x.exact ≤ y.exact)
    (hxConverted : Conversion.convert x c.source c.target = .ok x')
    (hxFinite : x'.isFinite = true)
    (hyConverted : Conversion.convert y c.source c.target = .ok y')
    (hyFinite : y'.isFinite = true) :
    ∃ p q, Display.named? c.result = some p ∧
      Display.named? { c with amount := larger }.result = some q ∧ p ≤ q := by
  obtain ⟨f, hRising, hConvert⟩ := Conversion.exists_rising hUnits
  have hFirst := Converter.named?_result hx hxConverted hxFinite
  have hSecond :=
    Converter.named?_result (c := { c with amount := larger }) hy hyConverted hyFinite
  refine ⟨_, _, hFirst, hSecond, Display.writtenNumber_mono hxFinite hyFinite ?_ _⟩
  rw [hConvert] at hxConverted hyConverted
  cases hxConverted
  cases hyConverted
  exact hRising.mono hxFinite hyFinite hOrder

/-- Absolute zero and one millionth of a degree Fahrenheit more, shown in kelvins. -/
theorem conversion_keeps_order_absolute_zero :
    let c : Converter := ⟨.temperature, "-459.67".toList, .fahrenheit, .kelvin⟩
    let warmer : Text := " -459.669999\t".toList
    let x : Binary64 := Decimal.toBinary64 ⟨-45967, 2⟩
    let y : Binary64 := Decimal.toBinary64 ⟨-459669999, 6⟩
    Amount.NamesFinite c.amount.trim x ∧ Amount.NamesFinite warmer.trim y ∧ x.exact ≤ y.exact ∧
      c.result = "0".toList ∧ { c with amount := warmer }.result = "0.000001".toList ∧
      ∃ p q, Display.named? c.result = some p ∧
        Display.named? { c with amount := warmer }.result = some q ∧ p ≤ q := by
  intro c warmer x y
  have hx : Amount.NamesFinite c.amount.trim x :=
    Amount.namesFinite_iff.2 ⟨by decide +kernel, by decide +kernel⟩
  have hy : Amount.NamesFinite warmer.trim y :=
    Amount.namesFinite_iff.2 ⟨by decide +kernel, by decide +kernel⟩
  have hOrder : x.exact ≤ y.exact := by decide +kernel
  let convert (z : Binary64) : Binary64 :=
    Conversion.ofCelsius (Conversion.toCelsius z .fahrenheit) .kelvin
  have hxConverted : Conversion.convert x c.source c.target = .ok (convert x) := rfl
  have hyConverted : Conversion.convert y c.source c.target = .ok (convert y) := rfl
  have hShown := conversion_keeps_order c rfl warmer hx hy hOrder hxConverted (by decide +kernel)
    hyConverted (by decide +kernel)
  exact ⟨hx, hy, hOrder, by decide +kernel, by decide +kernel, hShown⟩

end DeskCalc
