import DeskCalc.Proofs.Convert.AmountText
import DeskCalc.Proofs.Expr.Refusal
import DeskCalc.Proofs.Session.Run

/-!
# What the converter shows

The converter's result is a text in any case, so a mismatch of its units or a
refusal of the display would pass for a missing amount. Neither happens: the
units are only ever chosen from the category that is shown, and every finite
number can be displayed. So the placeholder tells of the amount and of its
conversion alone, and no displayed number reads like it.

## Main results

* `Converter.result_eq_placeholder_iff`, `Converter.write_eq_result` — what is
  shown, if the units belong together.
* `Screen.consistent_run` — they do, throughout a run at the screen.
* `conversion_shown` — both together.
-/

namespace DeskCalc

namespace Display

/-- No number is displayed as the placeholder: what is displayed has a value. -/
theorem write_ne_placeholder (x : Binary64) (places : ℕ) :
    write x places ≠ .ok Converter.placeholder := by
  intro h
  obtain ⟨negative, m, hText⟩ := exists_write_eq (isFinite_of_write h) places
  have hPlaceholder : Converter.placeholder = (Binary64.finite negative m).text :=
    Except.ok.inj (h.symm.trans hText)
  have hValue := evaluate_text negative m
  have hNone : DeskCalc.evaluate Converter.placeholder = .error (.grammar .incomplete) := by
    decide +kernel
  rw [← hPlaceholder, hNone] at hValue
  cases hValue

end Display

namespace Converter

variable {c : Converter}

/-- Units of one category are never refused. -/
theorem Consistent.convert_ne_error (h : c.Consistent) (x : Binary64)
    (error : IncompatibleUnits) : Conversion.convert x c.source c.target ≠ .error error := by
  rw [Ne, Conversion.convert_eq_error_iff]
  rintro ⟨hUnits, -⟩
  exact hUnits (h.1.trans h.2.symm)

theorem Consistent.exists_convert_eq (h : c.Consistent) (x : Binary64) :
    ∃ y, Conversion.convert x c.source c.target = .ok y := by
  cases hConverted : Conversion.convert x c.source c.target with
  | ok y => exact ⟨y, rfl⟩
  | error error => exact absurd hConverted (h.convert_ne_error x error)

/-- A result is the display of a converted finite amount. -/
theorem result?_eq_some_iff {shown : Text} :
    c.result? = some shown ↔ ∃ x y, Amount.NamesFinite c.amount.trim x ∧
      Conversion.convert x c.source c.target = .ok y ∧ Display.write y places = .ok shown := by
  have hOption {ε α : Type} (r : Except ε α) (a : α) : r.toOption = some a ↔ r = .ok a := by
    cases r <;> simp [Except.toOption]
  unfold result?
  simp only [Option.bind_eq_bind, Option.bind_eq_some_iff]
  constructor
  · rintro ⟨x, hRead, hShown⟩
    split at hShown
    next hFinite =>
      obtain ⟨y, hConverted, hWrite⟩ := Option.bind_eq_some_iff.1 hShown
      exact ⟨x, y, Amount.namesFinite_iff.2 ⟨hRead, hFinite⟩, (hOption _ _).1 hConverted,
        (hOption _ _).1 hWrite⟩
    next => cases hShown
  · rintro ⟨x, y, hNames, hConverted, hWrite⟩
    obtain ⟨hRead, hFinite⟩ := Amount.namesFinite_iff.1 hNames
    refine ⟨x, hRead, ?_⟩
    rw [if_pos hFinite, hConverted]
    exact (hOption _ _).2 hWrite

/-- **A converted finite amount is shown.** -/
theorem write_eq_result {x y : Binary64} (hNames : Amount.NamesFinite c.amount.trim x)
    (hConverted : Conversion.convert x c.source c.target = .ok y) (hFinite : y.isFinite = true) :
    Display.write y places = .ok c.result := by
  obtain ⟨negative, m, hWrite⟩ := Display.exists_write_eq hFinite places
  have hResult : c.result? = some _ := result?_eq_some_iff.2 ⟨x, y, hNames, hConverted, hWrite⟩
  rw [result, hResult]
  exact hWrite

/-- **When the placeholder is shown**: there is no finite amount, or it is
converted beyond the finite numbers. -/
theorem result_eq_placeholder_iff (h : c.Consistent) :
    c.result = placeholder ↔ (∀ x, ¬ Amount.NamesFinite c.amount.trim x) ∨
      ∃ x y, Amount.NamesFinite c.amount.trim x ∧
        Conversion.convert x c.source c.target = .ok y ∧ y.isFinite = false := by
  constructor
  · intro hResult
    by_cases hNames : ∃ x, Amount.NamesFinite c.amount.trim x
    · obtain ⟨x, hNames⟩ := hNames
      obtain ⟨y, hConverted⟩ := h.exists_convert_eq x
      refine .inr ⟨x, y, hNames, hConverted, ?_⟩
      by_contra hFinite
      have hShown := write_eq_result hNames hConverted (by simpa using hFinite)
      rw [hResult] at hShown
      exact Display.write_ne_placeholder y places hShown
    · exact .inl (not_exists.1 hNames)
  · intro hMissing
    have hNone : c.result? = none := by
      rw [Option.eq_none_iff_forall_not_mem]
      intro shown hShown
      obtain ⟨x, y, hNames, hConverted, hWrite⟩ := result?_eq_some_iff.1 hShown
      rcases hMissing with hNot | ⟨x', y', hNames', hConverted', hInfinite⟩
      · exact hNot x hNames
      · obtain rfl : x = x' := hNames.unique hNames'
        rw [hConverted] at hConverted'
        cases hConverted'
        rw [Display.isFinite_of_write hWrite] at hInfinite
        cases hInfinite
    rw [result, hNone]
    rfl

end Converter

namespace Screen

/-- No gesture chooses a unit of another category. -/
theorem Causes.consistent_perform {s : Screen} {g : Gesture} {command : Command}
    (h : s.Causes g command) (hUnits : s.app.converter.Consistent) :
    (s.app.converter.perform command).Consistent := by
  cases h with
  | button hButton =>
      cases hButton with
      | category hTab category =>
          show (if category = s.app.converter.category then _ else _ : Converter).Consistent
          split
          · exact hUnits
          · exact s.app.converter.consistent_chooseCategory category
      | _ => exact hUnits
  | @key k =>
      cases k <;> exact hUnits
  | pickSource hTab hUnit => exact ⟨(MeasureUnit.mem_units_iff _ _).1 hUnit, hUnits.2⟩
  | pickTarget hTab hUnit => exact ⟨hUnits.1, (MeasureUnit.mem_units_iff _ _).1 hUnit⟩
  | _ => exact hUnits

theorem consistent_step {s : Screen} (h : s.app.converter.Consistent) (g : Gesture) :
    (s.step g).app.converter.Consistent := by
  rw [converter_step]
  cases hCommand : (s.react g).command with
  | none => exact h
  | some command => exact (causes_of_react hCommand).consistent_perform h

/-- **The units belong to the category**, throughout a run. -/
theorem consistent_run (settings : Settings) (systemDark : Bool) (gestures : List Gesture) :
    ((start settings systemDark).run gestures).app.converter.Consistent :=
  run_preserves (P := fun s => s.app.converter.Consistent) (fun _ g h => consistent_step h g)
    Converter.consistent_start gestures

end Screen

/-- **What the converter shows, at every moment of a run at the screen.** Both
units belong to the category, so no conversion is refused. The placeholder is
shown exactly if the amount, blanks around it left out, is not the text of a
finite number or the number it names is not converted to a finite one; otherwise
the converted number is displayed with six places. -/
theorem conversion_shown (settings : Settings) (systemDark : Bool) (gestures : List Gesture) :
    let c := ((Screen.start settings systemDark).run gestures).app.converter
    (c.source.category = c.category ∧ c.target.category = c.category) ∧
    (∀ x error, Conversion.convert x c.source c.target ≠ .error error) ∧
    (c.result = Converter.placeholder ↔ (∀ x, ¬ Amount.NamesFinite c.amount.trim x) ∨
      ∃ x y, Amount.NamesFinite c.amount.trim x ∧
        Conversion.convert x c.source c.target = .ok y ∧ y.isFinite = false) ∧
    ∀ x y, Amount.NamesFinite c.amount.trim x →
      Conversion.convert x c.source c.target = .ok y → y.isFinite = true →
        Display.write y 6 = .ok c.result := by
  intro c
  have hUnits : c.Consistent := Screen.consistent_run settings systemDark gestures
  refine ⟨hUnits, hUnits.convert_ne_error, Converter.result_eq_placeholder_iff hUnits, ?_⟩
  intro x y hNames hConverted hFinite
  exact Converter.write_eq_result hNames hConverted hFinite

/-- Absolute zero in Celsius, chosen and typed after the units of length. -/
theorem conversion_shown_absolute_zero :
    let c := ((Screen.start .default false).run
      [.click "Conv", .pickUnit .source "Pouces", .click "température",
        .pickUnit .source "Kelvin", .pickUnit .target "Celsius",
        .fillAmount " -0e+7\t".toList]).app.converter
    let x : Binary64 := .zero true
    ∃ y, Amount.NamesFinite c.amount.trim x ∧
      Conversion.convert x c.source c.target = .ok y ∧ y.isFinite = true ∧
      Display.write y 6 = .ok c.result ∧ c.result = "-273.15".toList := by
  intro c x
  have hNames : Amount.NamesFinite c.amount.trim x :=
    Amount.namesFinite_iff.2 ⟨by decide +kernel, rfl⟩
  obtain ⟨-, -, -, hShown⟩ := conversion_shown .default false
    [.click "Conv", .pickUnit .source "Pouces", .click "température",
      .pickUnit .source "Kelvin", .pickUnit .target "Celsius", .fillAmount " -0e+7\t".toList]
  refine ⟨x - Conversion.freezingPoint, hNames, rfl, ?_, ?_, ?_⟩
  · decide +kernel
  · exact hShown x _ hNames rfl (by decide +kernel)
  · decide +kernel

end DeskCalc
