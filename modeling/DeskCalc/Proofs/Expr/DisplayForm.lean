import DeskCalc.Proofs.Convert.DecimalAmount
import DeskCalc.Proofs.Expr.Refusal
import DeskCalc.Proofs.Numeric.FewestPlaces

/-!
# The form of a displayed result

A displayed result has one form in all magnitudes: a minus sign or none, the
digits of a whole number without superfluous zeros and, if there is a fraction, a
point and no more digits than places were asked for, the last of them not zero.
There is no exponent, no point at either end and no zero with a sign.

What is displayed is not the rounded decimal but the shortest one of the nearest
number. It is of this form because it has no more places than the rounded
decimal, however far apart the numbers lie.

## Main results

* `IsResult` — the form.
* `Display.isResult_text` — the text of the number displayed has it.
* `Display.write_form` — which numbers are displayed, and how.
-/

namespace DeskCalc

namespace Display

/-- The digits of a whole number: zero, or digits that do not begin with zero. -/
inductive IsWhole : Text → Prop where
  | zero : IsWhole ['0']
  | digits {first : Char} {rest : Text} (hFirst : first.isDigit = true) (hNonzero : first ≠ '0')
      (hRest : ∀ c ∈ rest, c.isDigit = true) : IsWhole (first :: rest)

/-- A point and at most `limit` digits that do not end with zero, or nothing. -/
inductive IsFraction (limit : ℕ) : Text → Prop where
  | missing : IsFraction limit []
  | digits {front : Text} {last : Char} (hFront : ∀ c ∈ front, c.isDigit = true)
      (hLast : last.isDigit = true) (hNonzero : last ≠ '0') (hFew : front.length + 1 ≤ limit) :
      IsFraction limit ('.' :: (front ++ [last]))

/-- A sign or none, a whole number and at most `limit` places; no zero with a
sign. -/
inductive IsResult (limit : ℕ) : Text → Prop where
  | intro {sign whole fraction : Text} (hSign : sign = [] ∨ sign = ['-'])
      (hWhole : IsWhole whole) (hFraction : IsFraction limit fraction)
      (hNotZero : sign ++ (whole ++ fraction) ≠ ['-', '0']) :
      IsResult limit (sign ++ (whole ++ fraction))

/-! ## Written decimals -/

/-- The digits of a number other than zero begin with another digit. -/
theorem isWhole_write_of_ne_zero {n : ℕ} (h : n ≠ 0) :
    ∃ first rest, Digits.write n = first :: rest ∧ first.isDigit = true ∧ first ≠ '0' ∧
      ∀ c ∈ rest, c.isDigit = true := by
  fun_induction Digits.write n with
  | case1 n hn =>
      exact ⟨_, [], rfl, Digits.isDigit_char hn, Digits.char_ne_zero hn h, by simp⟩
  | case2 n hn ih =>
      obtain ⟨first, rest, hWrite, hFirst, hNonzero, hRest⟩ := ih (by omega)
      refine ⟨first, rest ++ [Digits.char (n % 10)], by rw [hWrite]; rfl, hFirst, hNonzero, ?_⟩
      intro c hc
      rcases List.mem_append.1 hc with hc | hc
      · exact hRest c hc
      · rw [List.mem_singleton.1 hc]
        exact Digits.isDigit_char (Nat.mod_lt _ (by decide))

theorem digits_write_zero : Digits.write 0 = ['0'] := by
  rw [Digits.write]
  rfl

theorem isWhole_write (n : ℕ) : IsWhole (Digits.write n) := by
  by_cases h : n = 0
  · subst h
    rw [digits_write_zero]
    exact .zero
  · obtain ⟨first, rest, hWrite, hFirst, hNonzero, hRest⟩ := isWhole_write_of_ne_zero h
    rw [hWrite]
    exact .digits hFirst hNonzero hRest

/-- **A written decimal has the form of a result**, if it is not zero and does not
end in a superfluous zero. -/
theorem isResult_writeUnsigned (negative : Bool) {n kept limit : ℕ} (hCount : n ≠ 0)
    (hFew : kept ≤ limit) (hDigit : kept ≠ 0 → ¬ 10 ∣ n) :
    IsResult limit (signText negative ++ Decimal.writeUnsigned n kept) := by
  have hSign : signText negative = [] ∨ signText negative = ['-'] := by
    cases negative with
    | false => exact .inl rfl
    | true => exact .inr rfl
  cases kept with
  | zero =>
      have hNotZero : signText negative ++ (Digits.write n ++ []) ≠ ['-', '0'] := by
        obtain ⟨first, rest, hWrite, hFirst, hNonzero, -⟩ := isWhole_write_of_ne_zero hCount
        have hMinus : first ≠ '-' := by
          rintro rfl
          exact absurd hFirst (by decide)
        rw [hWrite]
        cases negative with
        | false => simp [signText, hMinus]
        | true => simp [signText, hNonzero]
      rw [Decimal.writeUnsigned_zero, ← List.append_nil (Digits.write n)]
      exact .intro hSign (isWhole_write n) .missing hNotZero
  | succ kept =>
      rw [Decimal.writeUnsigned_succ, Digits.writePadded]
      have hLast : n % 10 ^ (kept + 1) % 10 = n % 10 :=
        Nat.mod_mod_of_dvd n ⟨10 ^ kept, Nat.pow_succ'⟩
      rw [hLast]
      have hNonzero : n % 10 ≠ 0 := fun h =>
        hDigit (Nat.succ_ne_zero kept) (Nat.dvd_of_mod_eq_zero h)
      have hBelow : n % 10 < 10 := Nat.mod_lt _ (by decide)
      refine .intro hSign (isWhole_write _) (.digits ?_ (Digits.isDigit_char hBelow)
        (Digits.char_ne_zero hBelow hNonzero) ?_) ?_
      · intro c hc
        exact Digits.isDigit_of_mem_writePadded hc
      · rw [Digits.length_writePadded]
        exact hFew
      · intro hZero
        have hPoint : '.' ∈ ['-', '0'] := by
          rw [← hZero]
          simp
        exact absurd hPoint (by decide)

/-! ## What is displayed -/

/-- Zero is displayed, or the number nearest to the rounded decimal. -/
theorem write_finite_cases (negative : Bool) (m : Magnitude) (places : ℕ) :
    (steps m (min places maxPlaces) = 0 ∧ write (.finite negative m) places = .ok ['0']) ∨
      ∃ shown : Magnitude, steps m (min places maxPlaces) ≠ 0 ∧
        place (steps m (min places maxPlaces) / 10 ^ min places maxPlaces) = shown.index ∧
        write (.finite negative m) places = .ok (Binary64.finite negative shown).text := by
  by_cases hSteps : steps m (min places maxPlaces) = 0
  · left
    rw [write_finite, if_pos hSteps]
    exact ⟨hSteps, rfl⟩
  · right
    have hLimit := place_steps_lt m (min places maxPlaces)
    exact ⟨⟨_, hLimit⟩, hSteps, rfl, write_of_place negative hSteps rfl hLimit⟩

/-- **The text of the number displayed has the form of a result.** -/
theorem isResult_text (negative : Bool) {shown : Magnitude} {count places : ℕ}
    (hPlaces : places ≤ 15) (hCount : count ≠ 0)
    (hPlace : place (count / 10 ^ places) = shown.index) :
    IsResult places (Binary64.finite negative shown).text := by
  obtain ⟨n, kept, hShortest, hNonzero, hFew, hDigit⟩ :=
    Magnitude.exists_shortest_form hPlaces (Nat.pos_of_ne_zero hCount) hPlace
  rw [Binary64.text_finite, hShortest, Decimal.write_natCast]
  exact isResult_writeUnsigned negative hNonzero hFew hDigit

/-- What is displayed has the form of a result, and is one numeral or a minus sign
and one numeral. -/
theorem form_of_write {x : Binary64} {places : ℕ} {shown : Text}
    (h : write x places = .ok shown) :
    IsResult (min places maxPlaces) shown ∧
      ∃ m, tokenize shown = .ok [.number (.finite false m)] ∨
        tokenize shown = .ok [.binary .sub, .number (.finite false m)] := by
  cases x with
  | infinite negative => cases h
  | nan => cases h
  | finite negative m =>
      rcases write_finite_cases negative m places with
        ⟨-, hWrite⟩ | ⟨number, hSteps, hPlace, hWrite⟩
      · obtain rfl : ['0'] = shown := Except.ok.inj (hWrite.symm.trans h)
        have hTokens := Binary64.tokenize_text false .zero
        rw [text_zero] at hTokens
        exact ⟨.intro (.inl rfl) .zero .missing (by decide), .zero, .inl hTokens⟩
      · obtain rfl : (Binary64.finite negative number).text = shown :=
          Except.ok.inj (hWrite.symm.trans h)
        have hTokens := Binary64.tokenize_text negative number
        refine ⟨isResult_text negative (min_le_right places maxPlaces) hSteps hPlace, number, ?_⟩
        cases negative with
        | false => exact .inl hTokens
        | true => exact .inr hTokens

theorem write_eq_error_iff {x : Binary64} {places : ℕ} {error : CalcError} :
    write x places = .error error ↔ x.isFinite = false ∧ error = .notFinite := by
  constructor
  · intro h
    cases x with
    | infinite negative => exact ⟨rfl, (Except.error.inj h).symm⟩
    | nan => exact ⟨rfl, (Except.error.inj h).symm⟩
    | finite negative m =>
        obtain ⟨negative', shown, hWrite⟩ :=
          exists_write_eq (x := .finite negative m) rfl places
        rw [hWrite] at h
        cases h
  · rintro ⟨hFinite, rfl⟩
    cases x with
    | infinite negative => rfl
    | nan => rfl
    | finite negative m => cases hFinite

/-- The rounded decimal, if it is not zero, is written as an amount, and the finite
number that it names is displayed. -/
theorem read?_rounded (negative : Bool) {m : Magnitude} {places : ℕ}
    (hUnits : (rounded negative m (min places maxPlaces)).units ≠ 0) :
    ∃ y, Amount.read? (rounded negative m (min places maxPlaces)).write = some y ∧
      y.isFinite = true ∧ write (.finite negative m) places = .ok y.text := by
  have hSteps : steps m (min places maxPlaces) ≠ 0 := by
    intro hZero
    rw [rounded_eq_steps, hZero] at hUnits
    cases negative <;> exact hUnits rfl
  have hLimit := place_steps_lt m (min places maxPlaces)
  refine ⟨.finite negative ⟨_, hLimit⟩, ?_, rfl, write_of_place negative hSteps rfl hLimit⟩
  rw [rounded_eq_steps, Decimal.write_signed negative hSteps, Amount.read?_signed,
    Binary64.ofPlace_of_lt negative hLimit]

/-- **Which numbers are displayed, and how.** A number is displayed exactly if it
is finite, and any other is refused as such. What is displayed has the form of a
result with at most `min places 15` places, and is one numeral or a minus sign and
one numeral. On the way there the rounded decimal, if it is not zero, is always
an amount and never too large. -/
theorem write_form (x : Binary64) (places : ℕ) :
    ((∃ shown, write x places = .ok shown) ↔ x.isFinite = true) ∧
    (∀ error, write x places = .error error ↔ x.isFinite = false ∧ error = .notFinite) ∧
    (∀ shown, write x places = .ok shown → IsResult (min places 15) shown ∧
      ∃ m, tokenize shown = .ok [.number (.finite false m)] ∨
        tokenize shown = .ok [.binary .sub, .number (.finite false m)]) ∧
    ∀ negative m, x = .finite negative m → (rounded negative m (min places 15)).units ≠ 0 →
      ∃ y, Amount.read? (rounded negative m (min places 15)).write = some y ∧
        y.isFinite = true ∧ write x places = .ok y.text := by
  refine ⟨⟨?_, ?_⟩, fun _ => write_eq_error_iff, fun _ => form_of_write, ?_⟩
  · rintro ⟨shown, hWrite⟩
    exact isFinite_of_write hWrite
  · intro hFinite
    obtain ⟨negative, m, hWrite⟩ := exists_write_eq hFinite places
    exact ⟨_, hWrite⟩
  · rintro negative m rfl hUnits
    exact read?_rounded negative hUnits

/-- A number just below zero, with more places asked for than there are to show: the
single step is the fifteenth place. -/
theorem write_form_last_place :
    let x : Binary64 := .finite true ⟨0x3cd203af9ee75616, by decide⟩
    x.isFinite = true ∧ write x 20 = .ok "-0.000000000000001".toList ∧
      IsResult 15 "-0.000000000000001".toList := by
  intro x
  obtain ⟨hShown, -, hForm, -⟩ := write_form x 20
  have hOption : (write x 20).toOption = some "-0.000000000000001".toList := by decide +kernel
  obtain ⟨shown, hWrite⟩ := hShown.2 rfl
  rw [hWrite] at hOption
  cases hOption
  exact ⟨rfl, hWrite, (hForm _ hWrite).1⟩

end Display

end DeskCalc
