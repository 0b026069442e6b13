import DeskCalc.Proofs.Expr.DisplayForm

/-!
# A decimal and its writing

Before a result is displayed it is rounded to a decimal, and decimals are written in
positional notation. Neither step is an approximation beyond the rounding itself: the
writing is read back to exactly the value written, and no other writing of that form has
the value.

The converse is what makes the form canonical. A run of digits is the writing of the
number that it names, padded to its length (`Digits.writePadded_read`), and without
superfluous zeros it is so unpadded (`Digits.write_read`).

## Main results

* `Decimal.positionalValue_eq` — what a positional writing names.
* `Decimal.write_eq_iff` — the writing of a decimal is the one of its value.
* `decimal_written_exactly` — writing and rounding of decimals.
-/

namespace DeskCalc

/-! ## Runs of digits -/

namespace Digits

theorem value_lt_ten {c : Char} (h : c.isDigit = true) : value c < 10 := by
  obtain ⟨hLow, hHigh⟩ := Char.isDigit_iff_toNat.1 h
  have hNine : '9'.toNat = '0'.toNat + 9 := rfl
  unfold value
  omega

theorem char_value {c : Char} (h : c.isDigit = true) : char (value c) = c := by
  obtain ⟨hLow, -⟩ := Char.isDigit_iff_toNat.1 h
  rw [char, value, Nat.add_sub_cancel' hLow, Char.ofNat_toNat]

/-- The last digit of a number and the others. -/
theorem div_mod_value (n : ℕ) {c : Char} (h : c.isDigit = true) :
    (10 * n + value c) / 10 = n ∧ (10 * n + value c) % 10 = value c := by
  have hSmall := value_lt_ten h
  omega

/-- A run of digits is the padded writing of the number that it names. -/
theorem writePadded_read {digits : Text} (h : ∀ c ∈ digits, c.isDigit = true) :
    writePadded digits.length (read digits) = digits := by
  induction digits using List.reverseRecOn with
  | nil => rfl
  | append_singleton front c ih =>
      have hLast : c.isDigit = true := h c (by simp)
      have hFront : ∀ d ∈ front, d.isDigit = true := fun d hd => h d (by simp [hd])
      obtain ⟨hDiv, hMod⟩ := div_mod_value (read front) hLast
      rw [List.length_append, List.length_singleton, writePadded, read_append_singleton, hDiv,
        hMod, ih hFront, char_value hLast]

theorem read_lt_pow {digits : Text} (h : ∀ c ∈ digits, c.isDigit = true) :
    read digits < 10 ^ digits.length := by
  induction digits using List.reverseRecOn with
  | nil => exact Nat.one_pos
  | append_singleton front c ih =>
      have hLast := value_lt_ten (h c (by simp))
      have hFront := ih fun d hd => h d (by simp [hd])
      rw [List.length_append, List.length_singleton, read_append_singleton, Nat.pow_succ]
      omega

/-- Digits behind others are units of a smaller place. -/
theorem read_append {digits : Text} (front : Text) (h : ∀ c ∈ digits, c.isDigit = true) :
    read (front ++ digits) = read front * 10 ^ digits.length + read digits := by
  have hPadded := Decimal.read_append_writePadded front digits.length (read digits) (read_lt_pow h)
  rwa [writePadded_read h] at hPadded

/-- **A run of digits without superfluous zeros is the writing of the number that it
names.** -/
theorem write_read {digits : Text} (h : Display.IsWhole digits) : write (read digits) = digits := by
  cases h with
  | zero => exact Display.digits_write_zero
  | @digits first rest hFirst hNonzero hRest =>
      induction rest using List.reverseRecOn with
      | nil =>
          have hSmall := value_lt_ten hFirst
          have hRead : read [first] = value first := by simp [read]
          rw [hRead, write, if_pos hSmall, char_value hFirst]
      | append_singleton front c ih =>
          have hLast : c.isDigit = true := hRest c (by simp)
          have hWrite := ih fun d hd => hRest d (by simp [hd])
          -- the digits in front do not begin with zero, so there is something to carry on
          have hPos : read (first :: front) ≠ 0 := by
            intro hZero
            rw [hZero, Display.digits_write_zero] at hWrite
            exact hNonzero (List.cons.inj hWrite).1.symm
          have hLarge : ¬ 10 * read (first :: front) + value c < 10 := by omega
          obtain ⟨hDiv, hMod⟩ := div_mod_value (read (first :: front)) hLast
          rw [← List.cons_append, read_append_singleton, write, if_neg hLarge, hDiv, hMod, hWrite,
            char_value hLast]

end Digits

namespace Decimal

/-! ## Positional writings -/

/-- A point and places, or nothing if there are none. -/
def behindWhole : Text → Text
  | [] => []
  | digits => '.' :: digits

/-- A minus sign if asked for, the digits of a whole number without superfluous zeros and
the digits of the places, behind a point unless there are none. -/
inductive IsPositional (negative : Bool) (places : ℕ) : Text → Prop where
  | intro {whole digits : Text} (hWhole : Display.IsWhole whole)
      (hDigits : ∀ c ∈ digits, c.isDigit = true) (hLength : digits.length = places) :
      IsPositional negative places (signText negative ++ (whole ++ behindWhole digits))

/-- The value that a positional writing names: that of its digits with the place of its
point, below zero behind a minus sign. -/
def positionalValue (s : Text) : ℚ :=
  let (negative, run) := Digits.splitSign s
  if negative then -Numeral.value run else Numeral.value run

theorem isDigit_of_isWhole {whole : Text} (h : Display.IsWhole whole) :
    (∀ c ∈ whole, c.isDigit = true) ∧ whole ≠ [] := by
  cases h with
  | zero =>
      refine ⟨?_, List.cons_ne_nil _ _⟩
      intro c hc
      rw [List.mem_singleton.1 hc]
      rfl
  | digits hFirst hNonzero hRest =>
      exact ⟨List.forall_mem_cons.2 ⟨hFirst, hRest⟩, List.cons_ne_nil _ _⟩

/-- The value of a whole number and places is that of all digits in units of the last
place. -/
theorem value_behindWhole {whole digits : Text} (hWhole : ∀ c ∈ whole, c.isDigit = true)
    (hDigits : ∀ c ∈ digits, c.isDigit = true) :
    Numeral.value (whole ++ behindWhole digits) =
      (Digits.read (whole ++ digits) : ℚ) / 10 ^ digits.length := by
  have hMagnitude : (Numeral.ofDigits whole digits).magnitude =
      (Digits.read (whole ++ digits) : ℚ) / 10 ^ digits.length := by
    rw [magnitude, Numeral.ofDigits, Int.natAbs_natCast]
  rw [← hMagnitude]
  cases digits with
  | nil =>
      rw [behindWhole, List.append_nil]
      exact Numeral.value_digits hWhole
  | cons c rest => exact Numeral.value_fraction hWhole hDigits

/-- **What a positional writing names.** -/
theorem positionalValue_eq (negative : Bool) {whole digits : Text}
    (hWhole : Display.IsWhole whole) (hDigits : ∀ c ∈ digits, c.isDigit = true) :
    positionalValue (signText negative ++ (whole ++ behindWhole digits)) =
      (if negative then -(Digits.read (whole ++ digits) : ℤ)
        else Digits.read (whole ++ digits) : ℤ) / 10 ^ digits.length := by
  obtain ⟨hWholeDigits, hNonempty⟩ := isDigit_of_isWhole hWhole
  have hFirst : ∀ c ∈ (whole ++ behindWhole digits).head?, Numeral.isNumeric c = true := by
    intro c hc
    rw [List.head?_append_of_ne_nil _ hNonempty] at hc
    exact Numeral.isNumeric_of_isDigit (hWholeDigits c (List.mem_of_mem_head? hc))
  have hSplit := (Amount.sign_signText negative).splitSign_append hFirst
  rw [positionalValue, hSplit]
  dsimp only
  rw [value_behindWhole hWholeDigits hDigits]
  cases negative with
  | false => simp
  | true => simp [neg_div]

/-! ## The writing of a decimal -/

theorem write_eq_signText (n : ℤ) (places : ℕ) :
    write ⟨n, places⟩ = signText (decide (n < 0)) ++ writeUnsigned n.natAbs places := by
  rw [write]
  by_cases h : n < 0 <;> simp [signText, h]

theorem writeUnsigned_eq (n places : ℕ) :
    writeUnsigned n places = Digits.write (n / 10 ^ places) ++
      behindWhole (Digits.writePadded places (n % 10 ^ places)) := by
  cases places with
  | zero =>
      rw [writeUnsigned_zero, Nat.pow_zero, Nat.div_one]
      exact (List.append_nil _).symm
  | succ places =>
      have hSome : Digits.writePadded (places + 1) (n % 10 ^ (places + 1)) ≠ [] := by
        simp [Digits.writePadded]
      rw [writeUnsigned_succ]
      cases hDigits : Digits.writePadded (places + 1) (n % 10 ^ (places + 1)) with
      | nil => exact absurd hDigits hSome
      | cons c rest => rfl

theorem signed_natAbs (n : ℤ) :
    (if decide (n < 0) then -(n.natAbs : ℤ) else n.natAbs) = n := by
  by_cases h : n < 0
  · rw [decide_eq_true h, if_pos rfl]
    omega
  · rw [decide_eq_false h, if_neg Bool.false_ne_true]
    omega

theorem isPositional_write (n : ℤ) (places : ℕ) :
    IsPositional (decide (n < 0)) places (write ⟨n, places⟩) := by
  rw [write_eq_signText, writeUnsigned_eq]
  exact .intro (Display.isWhole_write _) (fun c hc => Digits.isDigit_of_mem_writePadded hc)
    (Digits.length_writePadded places _)

theorem positionalValue_write (n : ℤ) (places : ℕ) :
    positionalValue (write ⟨n, places⟩) = n / 10 ^ places := by
  rw [write_eq_signText, writeUnsigned_eq, positionalValue_eq _ (Display.isWhole_write _)
    (fun c hc => Digits.isDigit_of_mem_writePadded hc), read_unsigned, signed_natAbs,
    Digits.length_writePadded]

/-- **The writing of a decimal is the one of its value**, among the positional writings
with its sign and as many places. -/
theorem write_eq_iff {n : ℤ} {places : ℕ} {s : Text} :
    write ⟨n, places⟩ = s ↔
      IsPositional (decide (n < 0)) places s ∧ positionalValue s = n / 10 ^ places := by
  constructor
  · rintro rfl
    exact ⟨isPositional_write n places, positionalValue_write n places⟩
  · rintro ⟨@⟨whole, digits, hWhole, hDigits, rfl⟩, hValue⟩
    have hScale : (10 ^ digits.length : ℚ) ≠ 0 := pow_ne_zero _ (by norm_num)
    rw [positionalValue_eq _ hWhole hDigits, div_left_inj' hScale, Int.cast_inj] at hValue
    have hUnits : n.natAbs = Digits.read (whole ++ digits) := by
      by_cases h : n < 0
      · rw [decide_eq_true h, if_pos rfl] at hValue
        omega
      · rw [decide_eq_false h, if_neg Bool.false_ne_true] at hValue
        omega
    have hBelow := Digits.read_lt_pow hDigits
    have hPow : 0 < 10 ^ digits.length := Nat.pow_pos (by decide)
    rw [write_eq_signText, writeUnsigned_eq, hUnits, Digits.read_append whole hDigits,
      Nat.mul_comm, Nat.mul_add_div hPow, Nat.div_eq_of_lt hBelow, Nat.add_zero,
      Nat.mul_add_mod, Nat.mod_eq_of_lt hBelow, Digits.write_read hWhole,
      Digits.writePadded_read hDigits]

theorem write_injective {n m : ℤ} {places : ℕ} (h : write ⟨m, places⟩ = write ⟨n, places⟩) :
    m = n := by
  have hScale : (10 ^ places : ℚ) ≠ 0 := pow_ne_zero _ (by norm_num)
  have hValue := positionalValue_write m places
  rw [h, positionalValue_write, div_left_inj' hScale, Int.cast_inj] at hValue
  exact hValue.symm

/-- **The units of a rounded decimal** are the whole number nearest to the scaled
value. -/
theorem units_round_eq_iff {a : ℤ} {b places : ℕ} (hb : 0 < b) {n : ℤ} :
    (round a b places).units = n ↔ NearestAway ((a : ℚ) / b * 10 ^ places) n := by
  have hScaled : ((a * 10 ^ places : ℤ) : ℚ) / b = (a : ℚ) / b * 10 ^ places := by
    push_cast
    ring
  rw [round, roundHalfAway_eq _ hb, hScaled, roundAway_eq_iff]

end Decimal

/-- **Decimals are written exactly and rounded to the nearest.** A whole number of units
of `10 ^ -places` has one writing: a minus sign exactly below zero, the digits of the whole
part without superfluous zeros and, unless there are no places, a point and as many digits
as there are places; and read back it names the units over `10 ^ places`. So different
units are written differently. A fraction is rounded to the units that are nearest to it
once it is scaled, and to those further from zero if two are equally near. -/
theorem decimal_written_exactly (n : ℤ) (places : ℕ) :
    (∀ s, Decimal.write ⟨n, places⟩ = s ↔
      Decimal.IsPositional (decide (n < 0)) places s ∧
        Decimal.positionalValue s = n / 10 ^ places) ∧
    (∀ m, Decimal.write ⟨m, places⟩ = Decimal.write ⟨n, places⟩ → m = n) ∧
    ∀ (a : ℤ) (b : ℕ), 0 < b →
      ((Decimal.round a b places).units = n ↔ NearestAway ((a : ℚ) / b * 10 ^ places) n) :=
  ⟨fun _ => Decimal.write_eq_iff, fun _ => Decimal.write_injective,
    fun _ _ hb => Decimal.units_round_eq_iff hb⟩

/-- Between zero and one below it the sign stands in front of a zero; and an eighth below
zero is halfway between two decimals with two places. -/
theorem decimal_written_exactly_minus_eighth :
    (Decimal.write ⟨-13, 2⟩ = "-0.13".toList ∧ Decimal.IsPositional true 2 "-0.13".toList ∧
      Decimal.positionalValue "-0.13".toList = -13 / 10 ^ 2) ∧
    (Decimal.write ⟨13, 2⟩ ≠ Decimal.write ⟨-13, 2⟩) ∧
    (Decimal.round (-1) 8 2).units = -13 ∧ NearestAway ((-1 : ℤ) / (8 : ℕ) * 10 ^ 2) (-13) := by
  obtain ⟨hWriting, hInjective, hRounding⟩ := decimal_written_exactly (-13) 2
  have hWrite : Decimal.write ⟨-13, 2⟩ = "-0.13".toList := by decide +kernel
  have hUnits : (Decimal.round (-1) 8 2).units = -13 := by decide
  obtain ⟨hForm, hValue⟩ := (hWriting _).1 hWrite
  refine ⟨⟨hWrite, hForm, by exact_mod_cast hValue⟩, ?_, hUnits,
    (hRounding (-1) 8 (by decide)).1 hUnits⟩
  intro hSame
  exact absurd (hInjective 13 hSame) (by decide)

end DeskCalc
