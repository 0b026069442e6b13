import DeskCalc.Convert.Amount
import DeskCalc.Proofs.Numeric.Nearest
import DeskCalc.Proofs.Numeric.NumeralValue

/-!
# Which texts are amounts

An amount is a sign, a numeral and a power of ten, of which only the numeral has
to be there. What such a text writes is said here part by part and as an exact
value, without reference to how it is read; the number it names is the nearest
one. Reading takes the longest run of digits and points, compares exponents with
bounds beyond which it computes nothing, and comes to the same.

## Main results

* `exponent?_eq_some_iff` — which texts are powers of ten.
* `scaled_eq` — a scaled number is rounded at its value, the shortcuts included.
* `read?_eq_some_iff`, `namesFinite_iff` — which texts are amounts, and the
  number each of them names.
-/

namespace DeskCalc.Amount

/-- A sign that may be missing, and whether it is the minus sign. -/
inductive Sign : Text → Bool → Prop where
  | missing : Sign [] false
  | plus : Sign ['+'] false
  | minus : Sign ['-'] true

/-- A power of ten that may be missing: a mark, a sign and digits. -/
inductive Exponent : Text → ℤ → Prop where
  | missing : Exponent [] 0
  | written {mark : Char} {sign digits : Text} {negative : Bool} (hMark : mark = 'e' ∨ mark = 'E')
      (hSign : Sign sign negative) (hNonempty : digits ≠ [])
      (hDigits : ∀ c ∈ digits, c.isDigit = true) :
      Exponent (mark :: (sign ++ digits))
        (if negative then -(Digits.read digits : ℤ) else Digits.read digits)

/-- The text writes an amount of this value under this sign. -/
inductive Writes : Text → Bool → ℚ → Prop where
  | intro {sign run behind : Text} {negative : Bool} {e : ℤ} (hSign : Sign sign negative)
      (hNumeral : Numeral.IsNumeral run) (hExponent : Exponent behind e) :
      Writes (sign ++ (run ++ behind)) negative (Numeral.value run * 10 ^ e)

/-- The text names a finite number: the one nearest to the value it writes. -/
def NamesFinite (s : Text) (x : Binary64) : Prop :=
  ∃ negative value, ∃ m : Magnitude,
    Writes s negative value ∧ Nearest value m.index ∧ x = .finite negative m

/-! ## The sign -/

/-- A text falls into its sign and the rest. -/
theorem exists_sign (s : Text) :
    ∃ sign, Sign sign (Digits.splitSign s).1 ∧ s = sign ++ (Digits.splitSign s).2 := by
  unfold Digits.splitSign
  split
  · exact ⟨['-'], .minus, rfl⟩
  · exact ⟨['+'], .plus, rfl⟩
  · exact ⟨[], .missing, rfl⟩

/-- A sign in front of a text that starts with none is split off. -/
theorem Sign.splitSign_append {sign rest : Text} {negative : Bool} (h : Sign sign negative)
    (hRest : ∀ c ∈ rest.head?, Numeral.isNumeric c = true) :
    Digits.splitSign (sign ++ rest) = (negative, rest) := by
  cases h with
  | plus => rfl
  | minus => rfl
  | missing =>
      rw [List.nil_append]
      unfold Digits.splitSign
      split
      · exact absurd (hRest '-' rfl) (by decide)
      · exact absurd (hRest '+' rfl) (by decide)
      · rfl

/-! ## The power of ten -/

theorem digits_read?_eq_some_iff {digits : Text} {n : ℕ} :
    Digits.read? digits = some n ↔
      digits ≠ [] ∧ (∀ c ∈ digits, c.isDigit = true) ∧ Digits.read digits = n := by
  unfold Digits.read?
  split
  next h =>
    rw [Bool.or_eq_true, List.isEmpty_iff, Bool.not_eq_true', ← Bool.not_eq_true,
      List.all_eq_true] at h
    simp only [reduceCtorEq, false_iff]
    rintro ⟨hNonempty, hDigits, -⟩
    exact h.elim hNonempty (· hDigits)
  next h =>
    rw [Bool.or_eq_true, List.isEmpty_iff, Bool.not_eq_true', ← Bool.not_eq_true,
      List.all_eq_true, not_or, not_not] at h
    rw [Option.some_inj]
    exact ⟨fun hRead => ⟨h.1, h.2, hRead⟩, fun hForm => hForm.2.2⟩

/-- A power of ten, part by part. -/
theorem exponent?_cons_eq_some_iff {mark : Char} {rest : Text} {e : ℤ} :
    exponent? (mark :: rest) = some e ↔ (mark = 'e' ∨ mark = 'E') ∧
      ∃ n : ℕ, Digits.read? (Digits.splitSign rest).2 = some n ∧
        (if (Digits.splitSign rest).1 then -(n : ℤ) else n) = e := by
  rw [exponent?]
  split
  next hMark =>
    rw [and_iff_right hMark]
    simp [Option.bind_eq_some_iff]
  next hMark => simp [hMark]

/-- **Which texts are powers of ten.** -/
theorem exponent?_eq_some_iff {s : Text} {e : ℤ} : exponent? s = some e ↔ Exponent s e := by
  constructor
  · intro h
    cases s with
    | nil =>
        cases h
        exact .missing
    | cons mark rest =>
        obtain ⟨hMark, n, hRead, rfl⟩ := exponent?_cons_eq_some_iff.1 h
        obtain ⟨hNonempty, hDigits, rfl⟩ := digits_read?_eq_some_iff.1 hRead
        obtain ⟨sign, hSign, hRest⟩ := exists_sign rest
        nth_rewrite 1 [hRest]
        exact .written hMark hSign hNonempty hDigits
  · intro h
    cases h with
    | missing => rfl
    | @written mark sign digits negative hMark hSign hNonempty hDigits =>
        have hFirst : ∀ c ∈ digits.head?, Numeral.isNumeric c = true := by
          intro c hc
          exact Numeral.isNumeric_of_isDigit (hDigits c (List.mem_of_mem_head? hc))
        rw [exponent?_cons_eq_some_iff, hSign.splitSign_append hFirst]
        exact ⟨hMark, _, digits_read?_eq_some_iff.2 ⟨hNonempty, hDigits, rfl⟩, rfl⟩

/-- A power of ten does not go on with the run of digits and points in front of
it. -/
theorem Exponent.stops {s : Text} {e : ℤ} (h : Exponent s e) :
    ∀ c, s.head? = some c → Numeral.isNumeric c = false := by
  intro c hc
  cases h with
  | missing => cases hc
  | written hMark =>
      cases hc
      rcases hMark with rfl | rfl <;> rfl

/-! ## The number -/

/-- **A scaled number is rounded at its value**: the shortcuts give what rounding
the quotient would. -/
theorem scaled_eq (negative : Bool) (units : ℕ) (e : ℤ) :
    scaled negative units e = .ofPlace negative (place (units * 10 ^ e)) := by
  by_cases hUnits : units = 0
  · have hZero : place ((units : ℚ) * 10 ^ e) = 0 := by
      rw [hUnits, Nat.cast_zero, zero_mul, place_zero]
    have hLimit : 0 < indexLimit := by decide
    rw [scaled, if_pos hUnits, hZero, Binary64.ofPlace_of_lt negative hLimit]
    rfl
  · rw [scaled, if_neg hUnits]
    split
    next hSign =>
      obtain ⟨n, rfl⟩ := Int.eq_ofNat_of_zero_le hSign
      have hValue : ((units * 10 ^ n : ℕ) : ℚ) / (1 : ℕ) = units * 10 ^ (n : ℤ) := by
        push_cast
        rw [div_one, zpow_natCast]
      have hRound : Binary64.ofRatio negative (units * 10 ^ n) 1 =
          .ofPlace negative (place (units * 10 ^ (n : ℤ))) := by
        rw [Binary64.ofRatio_eq negative _ Nat.one_pos, hValue]
      split
      next hLarge =>
        rw [← hRound, scaled_eq_infinite negative hUnits (by omega)]
      next => exact hRound
    next hSign =>
      obtain ⟨n, rfl⟩ : ∃ n : ℕ, e = -n := ⟨(-e).toNat, by omega⟩
      have hPos : 0 < 10 ^ n := Nat.pow_pos (by decide)
      have hValue : (units : ℚ) / (10 ^ n : ℕ) = units * 10 ^ (-(n : ℤ)) := by
        push_cast
        rw [zpow_neg, zpow_natCast, div_eq_mul_inv]
      have hRound : Binary64.ofRatio negative units (10 ^ n) =
          .ofPlace negative (place (units * 10 ^ (-(n : ℤ)))) := by
        rw [Binary64.ofRatio_eq negative _ hPos, hValue]
      have hPlaces : (- -(n : ℤ)).toNat = n := by omega
      simp only [hPlaces]
      split
      next hSmall => rw [← hRound, scaled_eq_zero negative hUnits hSmall]
      next => exact hRound

/-- A numeral scaled by a power of ten is rounded at the value of both. -/
theorem scaled_numeral {run : Text} {d : Decimal} (negative : Bool) (e : ℤ)
    (hValue : d.magnitude = Numeral.value run) :
    scaled negative d.units.natAbs (e - d.places) =
      .ofPlace negative (place (Numeral.value run * 10 ^ e)) := by
  have hTen : (10 : ℚ) ≠ 0 := by norm_num
  have hScale : (d.units.natAbs : ℚ) * 10 ^ (e - d.places) = Numeral.value run * 10 ^ e := by
    rw [← hValue, Decimal.magnitude, zpow_sub₀ hTen, zpow_natCast]
    ring
  rw [scaled_eq, hScale]

/-! ## The whole text -/

/-- Reading, part by part. -/
theorem read?_eq_some_iff_parts {s : Text} {x : Binary64} :
    read? s = some x ↔ ∃ d e,
      Numeral.read? ((Digits.splitSign s).2.takeWhile Numeral.isNumeric) = some d ∧
      exponent? ((Digits.splitSign s).2.dropWhile Numeral.isNumeric) = some e ∧
      scaled (Digits.splitSign s).1 d.units.natAbs (e - d.places) = x := by
  simp [read?, Option.bind_eq_some_iff]

/-- **Which texts are amounts**, and the number each of them names. -/
theorem read?_eq_some_iff {s : Text} {x : Binary64} :
    read? s = some x ↔
      ∃ negative value, Writes s negative value ∧ x = .ofPlace negative (place value) := by
  rw [read?_eq_some_iff_parts]
  constructor
  · rintro ⟨d, e, hRead, hExponent, rfl⟩
    obtain ⟨sign, hSign, hSplit⟩ := exists_sign s
    generalize Digits.splitSign s = parts at *
    obtain ⟨negative, rest⟩ := parts
    have hNumeral : Numeral.IsNumeral (rest.takeWhile Numeral.isNumeric) := by
      by_contra hNot
      have hNumeric : ∀ c ∈ rest.takeWhile Numeral.isNumeric, Numeral.isNumeric c = true :=
        List.all_eq_true.1 List.all_takeWhile
      rw [Numeral.read?_eq_none hNumeric hNot] at hRead
      cases hRead
    obtain ⟨d', hRead', hValue, -⟩ := Numeral.exists_read?_magnitude hNumeral
    obtain rfl : d' = d := Option.some.inj (hRead'.symm.trans hRead)
    have hWrites := Writes.intro hSign hNumeral (exponent?_eq_some_iff.1 hExponent)
    rw [List.takeWhile_append_dropWhile, ← hSplit] at hWrites
    exact ⟨negative, _, hWrites, scaled_numeral negative e hValue⟩
  · rintro ⟨negative, value, hWrites, rfl⟩
    obtain @⟨sign, run, behind, _, e, hSign, hNumeral, hExponent⟩ := hWrites
    obtain ⟨c, hc, -⟩ := hNumeral.digit
    have hFirst : ∀ d ∈ (run ++ behind).head?, Numeral.isNumeric d = true := by
      intro d hd
      rw [List.head?_append_of_ne_nil _ (List.ne_nil_of_mem hc)] at hd
      exact hNumeral.numeric d (List.mem_of_mem_head? hd)
    obtain ⟨hTake, hDrop⟩ := Text.takeWhile_dropWhile_run hNumeral.numeric hExponent.stops
    obtain ⟨d, hRead, hValue, -⟩ := Numeral.exists_read?_magnitude hNumeral
    rw [hSign.splitSign_append hFirst]
    simp only [hTake, hDrop]
    exact ⟨d, e, hRead, exponent?_eq_some_iff.2 hExponent, scaled_numeral negative e hValue⟩

/-- **The texts of finite numbers** are those that are read as one. -/
theorem namesFinite_iff {s : Text} {x : Binary64} :
    NamesFinite s x ↔ read? s = some x ∧ x.isFinite = true := by
  rw [read?_eq_some_iff]
  constructor
  · rintro ⟨negative, value, m, hWrites, hNearest, rfl⟩
    refine ⟨⟨negative, value, hWrites, ?_⟩, rfl⟩
    rw [hNearest.place_eq, Binary64.ofPlace_of_lt negative m.index_lt]
  · rintro ⟨⟨negative, value, hWrites, rfl⟩, hFinite⟩
    have hLimit := Binary64.isFinite_ofPlace_iff.1 hFinite
    exact ⟨negative, value, ⟨place value, hLimit⟩, hWrites, nearest_place value,
      Binary64.ofPlace_of_lt negative hLimit⟩

/-- A text names one finite number at most. -/
theorem NamesFinite.unique {s : Text} {x y : Binary64} (hx : NamesFinite s x)
    (hy : NamesFinite s y) : x = y := by
  have hSame := (namesFinite_iff.1 hx).1.symm.trans (namesFinite_iff.1 hy).1
  exact Option.some.inj hSame

end DeskCalc.Amount
