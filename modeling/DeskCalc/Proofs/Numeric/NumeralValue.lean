import DeskCalc.Proofs.Numeric.Exact
import DeskCalc.Proofs.Numeric.Numeral

/-!
# What a numeral names

A numeral has digits, at least one of them, and at most one point. It names the
number that its digits spell, the point left out, with as many decimal places as
stand behind the point. `Numeral.read?` splits a run at its point instead; here
the two readings are brought together.

## Main results

* `Numeral.exists_read?_eq` — a numeral is read as the number nearest to the
  value it names.
* `Numeral.read?_eq_none` — no other run of digits and points is read.
-/

namespace DeskCalc.Numeral

/-- The value that the digits of a run name, with the places behind its
point. -/
def value (run : Text) : ℚ :=
  Digits.read (run.filter Char.isDigit) / 10 ^ ((run.dropWhile (· != '.')).length - 1)

/-- Digits and points, with at least one digit and at most one point. -/
structure IsNumeral (run : Text) : Prop where
  numeric : ∀ c ∈ run, isNumeric c = true
  digit : ∃ c ∈ run, c.isDigit = true
  point : run.count '.' ≤ 1

/-- A run of digits and points is digits only, or digits in front of its first
point. -/
theorem exists_split {run : Text} (h : ∀ c ∈ run, isNumeric c = true) :
    (∀ c ∈ run, c.isDigit = true) ∨
      ∃ whole places, run = whole ++ '.' :: places ∧ (∀ c ∈ whole, c.isDigit = true) ∧
        ∀ c ∈ places, isNumeric c = true := by
  induction run with
  | nil => exact .inl (by simp)
  | cons c rest ih =>
      rw [List.forall_mem_cons] at h
      obtain ⟨hFirst, hRest⟩ := h
      rw [isNumeric, Bool.or_eq_true, beq_iff_eq] at hFirst
      rcases hFirst with hDigit | rfl
      · rcases ih hRest with hAll | ⟨whole, places, rfl, hWhole, hPlaces⟩
        · exact .inl (List.forall_mem_cons.2 ⟨hDigit, hAll⟩)
        · exact .inr ⟨c :: whole, places, rfl, List.forall_mem_cons.2 ⟨hDigit, hWhole⟩, hPlaces⟩
      · exact .inr ⟨[], rest, rfl, by simp, hRest⟩

theorem isNumeric_of_isDigit {c : Char} (h : c.isDigit = true) : isNumeric c = true := by
  rw [isNumeric, h, Bool.true_or]

theorem bne_point_of_isDigit {c : Char} (h : c.isDigit = true) : (c != '.') = true := by
  rw [bne_iff_ne]
  rintro rfl
  exact absurd h (by decide)

/-- No digit is a point. -/
theorem count_point_digits {digits : Text} (h : ∀ c ∈ digits, c.isDigit = true) :
    digits.count '.' = 0 := by
  rw [List.count_eq_zero]
  intro hMem
  exact absurd (h '.' hMem) (by decide)

section Digits

variable {digits : Text} (h : ∀ c ∈ digits, c.isDigit = true)
include h

theorem read?_digits :
    read? digits = if digits.isEmpty then none else some (ofDigits digits []) := by
  have hStop : ∀ c, ([] : Text).head? = some c → c.isDigit = false := by simp
  obtain ⟨hTake, hDrop⟩ := Text.takeWhile_dropWhile_run h hStop
  rw [List.append_nil] at hTake hDrop
  rw [read?, hDrop, hTake]

theorem isNumeral_digits_iff : IsNumeral digits ↔ digits ≠ [] := by
  constructor
  · rintro ⟨-, ⟨c, hc, -⟩, -⟩
    exact List.ne_nil_of_mem hc
  · intro hNonempty
    obtain ⟨c, hc⟩ := List.exists_mem_of_ne_nil digits hNonempty
    refine ⟨fun d hd => isNumeric_of_isDigit (h d hd), ⟨c, hc, h c hc⟩, ?_⟩
    rw [count_point_digits h]
    exact Nat.zero_le 1

theorem value_digits : value digits = (ofDigits digits []).magnitude := by
  have hFilter : digits.filter Char.isDigit = digits := List.filter_eq_self.2 h
  have hBehind : (digits ++ []).dropWhile (· != '.') = [] :=
    List.dropWhile_append_of_pos fun c hc => bne_point_of_isDigit (h c hc)
  rw [List.append_nil] at hBehind
  rw [value, hFilter, hBehind, ofDigits, Decimal.magnitude, List.append_nil]
  rfl

end Digits

section Fraction

variable {whole places : Text} (hWhole : ∀ c ∈ whole, c.isDigit = true)
include hWhole

theorem read?_fraction :
    read? (whole ++ '.' :: places) =
      if places.all Char.isDigit = true ∧ ¬ (whole ++ places).isEmpty = true then
        some (ofDigits whole places)
      else none := by
  have hStop : ∀ c, ('.' :: places).head? = some c → c.isDigit = false := by
    rintro c ⟨⟩
    rfl
  obtain ⟨hTake, hDrop⟩ := Text.takeWhile_dropWhile_run hWhole hStop
  rw [read?, hDrop, hTake]
  simp

theorem isNumeral_fraction_iff (hPlaces : ∀ c ∈ places, isNumeric c = true) :
    IsNumeral (whole ++ '.' :: places) ↔
      (∀ c ∈ places, c.isDigit = true) ∧ whole ++ places ≠ [] := by
  have hCount : (whole ++ '.' :: places).count '.' = places.count '.' + 1 := by
    rw [List.count_append, count_point_digits hWhole, Nat.zero_add, List.count_cons_self]
  constructor
  · rintro ⟨-, ⟨c, hc, hDigit⟩, hPoint⟩
    rw [hCount] at hPoint
    have hNone : '.' ∉ places := List.count_eq_zero.1 (by omega)
    constructor
    · intro d hd
      have hNumeric := hPlaces d hd
      rw [isNumeric, Bool.or_eq_true, beq_iff_eq] at hNumeric
      rcases hNumeric with hDigit | rfl
      · exact hDigit
      · exact absurd hd hNone
    · have hNotPoint : c ≠ '.' := by
        rintro rfl
        exact absurd hDigit (by decide)
      have hMem : c ∈ whole ++ places := by simpa [hNotPoint] using hc
      exact List.ne_nil_of_mem hMem
  · rintro ⟨hDigits, hNonempty⟩
    obtain ⟨c, hc⟩ := List.exists_mem_of_ne_nil _ hNonempty
    have hDigit : ∀ d ∈ whole ++ places, d.isDigit = true := by
      intro d hd
      exact (List.mem_append.1 hd).elim (hWhole d) (hDigits d)
    refine ⟨?_, ⟨c, ?_, hDigit c hc⟩, ?_⟩
    · intro d hd
      rcases List.mem_append.1 hd with hd | hd
      · exact isNumeric_of_isDigit (hWhole d hd)
      · rcases List.mem_cons.1 hd with rfl | hd
        · rfl
        · exact hPlaces d hd
    · exact List.mem_append.2 ((List.mem_append.1 hc).imp id (List.mem_cons_of_mem _))
    · rw [hCount, count_point_digits hDigits]

theorem value_fraction (hPlaces : ∀ c ∈ places, c.isDigit = true) :
    value (whole ++ '.' :: places) = (ofDigits whole places).magnitude := by
  have hFilter : (whole ++ '.' :: places).filter Char.isDigit = whole ++ places := by
    rw [List.filter_append, List.filter_eq_self.2 hWhole,
      List.filter_cons_of_neg (by decide), List.filter_eq_self.2 hPlaces]
  have hBehind : (whole ++ '.' :: places).dropWhile (· != '.') = '.' :: places :=
    List.dropWhile_append_of_pos fun c hc => bne_point_of_isDigit (hWhole c hc)
  rw [value, hFilter, hBehind, ofDigits, Decimal.magnitude]
  rfl

end Fraction

/-- A numeral is read as a decimal with its value, not below zero. -/
theorem exists_read?_magnitude {run : Text} (h : IsNumeral run) :
    ∃ d, read? run = some d ∧ d.magnitude = value run ∧ 0 ≤ d.units := by
  rcases exists_split h.numeric with hDigits | ⟨whole, places, rfl, hWhole, hPlaces⟩
  · have hNonempty := (isNumeral_digits_iff hDigits).1 h
    refine ⟨ofDigits run [], ?_, (value_digits hDigits).symm, Int.natCast_nonneg _⟩
    rw [read?_digits hDigits, if_neg (by simpa using hNonempty)]
  · have hForm := (isNumeral_fraction_iff hWhole hPlaces).1 h
    refine ⟨ofDigits whole places, ?_, (value_fraction hWhole hForm.1).symm,
      Int.natCast_nonneg _⟩
    rw [read?_fraction hWhole, if_pos (by simpa using hForm)]

/-- **A numeral is read as the number nearest to its value.** -/
theorem exists_read?_eq {run : Text} (h : IsNumeral run) :
    ∃ d, read? run = some d ∧ d.toBinary64 = .ofPlace false (place (value run)) := by
  obtain ⟨d, hRead, hValue, hSign⟩ := exists_read?_magnitude h
  refine ⟨d, hRead, ?_⟩
  rw [Decimal.toBinary64_eq, hValue, decide_eq_false (by omega)]

/-- **No other run of digits and points is read.** -/
theorem read?_eq_none {run : Text} (hNumeric : ∀ c ∈ run, isNumeric c = true)
    (h : ¬ IsNumeral run) : read? run = none := by
  rcases exists_split hNumeric with hDigits | ⟨whole, places, rfl, hWhole, hPlaces⟩
  · rw [isNumeral_digits_iff hDigits] at h
    rw [read?_digits hDigits, if_pos (by simpa using h)]
  · rw [isNumeral_fraction_iff hWhole hPlaces] at h
    rw [read?_fraction hWhole, if_neg (by simpa using h)]

end DeskCalc.Numeral
