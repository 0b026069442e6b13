import DeskCalc.Proofs.Expr.DisplayForm

/-!
# The display keeps order and sign

A result goes through three roundings before it is shown: to decimals, to the
nearest number and to the shortest decimal of that number. None of them changes
the order of two magnitudes. The last one is no rounding of a value to a grid, but
it is undone by the one before it: shortest decimals in the wrong order would read
back in the wrong order. All three look at the magnitude alone, so a number and its
opposite are shown as opposites.

## Main results

* `Magnitude.shortest_mono` — shortest decimals are ordered as their magnitudes.
* `Display.writtenNumber_mono` — the numbers written are ordered as the results.
* `Display.write_keeps_order` — what is displayed keeps the order and the sign.
-/

namespace DeskCalc

/-- Shortest decimals are ordered as their magnitudes. -/
theorem Magnitude.shortest_mono {m n : Magnitude} (h : m.index ≤ n.index) :
    m.shortest.magnitude ≤ n.shortest.magnitude := by
  by_contra hOrder
  have hPlaces := place_mono (not_le.1 hOrder).le
  rw [n.place_shortest, m.place_shortest] at hPlaces
  obtain rfl : m = n := by
    cases m
    cases n
    congr 1
    exact le_antisymm h hPlaces
  exact hOrder le_rfl

theorem Magnitude.shortest_magnitude_of_zero {m : Magnitude} (h : m.index = 0) :
    m.shortest.magnitude = 0 := by
  rw [shortest, if_pos h]
  exact zero_div _

namespace Display

/-- The number that a text names: a numeral its own value, and with a minus sign in
front the opposite. -/
def named? : Text → Option ℚ
  | '-' :: run => (Numeral.read? run).map fun d => -d.magnitude
  | run => (Numeral.read? run).map Decimal.magnitude

/-- The text with the other sign; zero has none. -/
def opposite : Text → Text
  | ['0'] => ['0']
  | '-' :: digits => digits
  | digits => '-' :: digits

/-! ## The number written -/

section Magnitudes

variable {m n : Magnitude} {places : ℕ}

/-- The magnitude nearest to the rounded value of another one. -/
def shown (m : Magnitude) (places : ℕ) : Magnitude :=
  ⟨place (steps m places / 10 ^ places), place_steps_lt m places⟩

theorem steps_mono (h : m.value ≤ n.value) : steps m places ≤ steps n places := by
  have hScaled : m.value * 10 ^ places ≤ n.value * 10 ^ places :=
    mul_le_mul_of_nonneg_right h (by positivity)
  have hRound := round_le_round hScaled
  rw [round_eq_steps, round_eq_steps] at hRound
  exact_mod_cast hRound

/-- A larger magnitude is not shown as a smaller decimal. -/
theorem shortest_shown_mono (h : m.value ≤ n.value) :
    (shown m places).shortest.magnitude ≤ (shown n places).shortest.magnitude := by
  apply Magnitude.shortest_mono
  have hSteps : (steps m places : ℚ) ≤ steps n places := by exact_mod_cast steps_mono h
  exact place_mono (div_le_div_of_nonneg_right hSteps (by positivity))

/-- What is rounded to no step is shown as zero. -/
theorem shortest_shown_of_steps (h : steps m places = 0) :
    (shown m places).shortest.magnitude = 0 := by
  have hIndex : (shown m places).index = 0 := by
    show place (steps m places / 10 ^ places) = 0
    rw [h, Nat.cast_zero, zero_div, place_zero]
  exact Magnitude.shortest_magnitude_of_zero hIndex

theorem shortest_shown_of_zero (h : m.value = 0) : (shown m places).shortest.magnitude = 0 := by
  apply shortest_shown_of_steps
  rw [steps, h, zero_mul, round_zero]
  rfl

theorem shortest_shown_nonneg (m : Magnitude) (places : ℕ) :
    0 ≤ (shown m places).shortest.magnitude := by
  unfold Decimal.magnitude
  positivity

end Magnitudes

/-- The decimal written for a number: that of the magnitude shown, under the sign of
the number. -/
def writtenNumber (x : Binary64) (places : ℕ) : ℚ :=
  match x with
  | .finite negative m =>
      let digits := (shown m (min places maxPlaces)).shortest.magnitude
      if negative then -digits else digits
  | _ => 0

/-- **The numbers written are ordered as the results.** -/
theorem writtenNumber_mono {x y : Binary64} (hx : x.isFinite = true) (hy : y.isFinite = true)
    (h : x.exact ≤ y.exact) (places : ℕ) : writtenNumber x places ≤ writtenNumber y places := by
  obtain ⟨a, m, rfl⟩ := Binary64.exists_eq_finite hx
  obtain ⟨b, n, rfl⟩ := Binary64.exists_eq_finite hy
  have hm := shortest_shown_nonneg m (min places maxPlaces)
  have hn := shortest_shown_nonneg n (min places maxPlaces)
  have hValue := m.value_nonneg
  have hOther := n.value_nonneg
  cases a with
  | false =>
      cases b with
      | false => exact shortest_shown_mono h
      | true =>
          -- only the two zeros are ordered like this
          have hOpposite : m.value ≤ -n.value := h
          have hLeft : m.value = 0 := by linarith
          have hRight : n.value = 0 := by linarith
          show (shown m (min places maxPlaces)).shortest.magnitude ≤
            -(shown n (min places maxPlaces)).shortest.magnitude
          rw [shortest_shown_of_zero hLeft, shortest_shown_of_zero hRight, neg_zero]
  | true =>
      cases b with
      | false =>
          show -(shown m (min places maxPlaces)).shortest.magnitude ≤
            (shown n (min places maxPlaces)).shortest.magnitude
          linarith
      | true =>
          have hOrder : n.value ≤ m.value := neg_le_neg_iff.1 h
          exact neg_le_neg (shortest_shown_mono hOrder)

/-! ## The text -/

/-- A written decimal begins with a digit, and so with no sign. -/
theorem exists_shortest_write_eq (m : Magnitude) :
    ∃ c rest, m.shortest.write = c :: rest ∧ c ≠ '-' := by
  obtain ⟨n, places, -, hWrite⟩ := m.exists_shortest_writeUnsigned
  obtain ⟨c, rest, hFirst, hDigit⟩ := Decimal.exists_writeUnsigned_eq n places
  refine ⟨c, rest, hWrite.trans hFirst, ?_⟩
  rintro rfl
  exact absurd hDigit (by decide)

/-- The text of a number names its shortest decimal. -/
theorem named?_text (negative : Bool) (m : Magnitude) :
    named? (Binary64.finite negative m).text =
      some (if negative then -m.shortest.magnitude else m.shortest.magnitude) := by
  have hRead : Numeral.read? m.shortest.write = some m.shortest := by
    obtain ⟨n, places, hShortest, hWrite⟩ := m.exists_shortest_writeUnsigned
    rw [hWrite, Numeral.read?_writeUnsigned, hShortest]
  cases negative with
  | true =>
      show (Numeral.read? m.shortest.write).map _ = _
      rw [hRead]
      rfl
  | false =>
      show named? m.shortest.write = _
      unfold named?
      split
      next run hMinus =>
        obtain ⟨c, rest, hFirst, hSign⟩ := exists_shortest_write_eq m
        rw [hFirst] at hMinus
        cases hMinus
        exact absurd rfl hSign
      next =>
        rw [hRead]
        rfl

theorem named?_zero : named? ['0'] = some 0 := by
  have hText := named?_text false .zero
  rw [text_zero, Magnitude.shortest_magnitude_of_zero rfl, neg_zero, ite_self] at hText
  exact hText

theorem IsResult.ne_minus_zero {limit : ℕ} {s : Text} (h : IsResult limit s) :
    s ≠ ['-', '0'] := by
  cases h with
  | intro _ _ _ hNotZero => exact hNotZero

/-- The text of a number other than zero has the sign that the number has. -/
theorem opposite_text (negative : Bool) {m : Magnitude} (h : m.shortest.write ≠ ['0']) :
    opposite (Binary64.finite negative m).text = (Binary64.finite (!negative) m).text := by
  cases negative with
  | true => rfl
  | false =>
      show opposite m.shortest.write = '-' :: m.shortest.write
      unfold opposite
      split
      next hZero => exact absurd hZero h
      next digits hMinus =>
        obtain ⟨c, rest, hFirst, hSign⟩ := exists_shortest_write_eq m
        rw [hFirst] at hMinus
        cases hMinus
        exact absurd rfl hSign
      next => rfl

/-- What is displayed of a number, by the magnitude shown for it. -/
theorem write_eq_shown (negative : Bool) (m : Magnitude) (places : ℕ) :
    write (.finite negative m) places = .ok (
      if steps m (min places maxPlaces) = 0 then ['0']
      else (Binary64.finite negative (shown m (min places maxPlaces))).text) := by
  split
  next hSteps => rw [write_finite, if_pos hSteps]
  next hSteps => exact write_of_place negative hSteps rfl (place_steps_lt m _)

/-- **What is displayed** names the number written, and the opposite of a number is
displayed as the opposite text. -/
theorem exists_write_named {x : Binary64} (hFinite : x.isFinite = true) (places : ℕ) :
    ∃ s, write x places = .ok s ∧ named? s = some (writtenNumber x places) ∧
      write (-x) places = .ok (opposite s) := by
  obtain ⟨negative, m, rfl⟩ := Binary64.exists_eq_finite hFinite
  refine ⟨_, write_eq_shown negative m places, ?_, ?_⟩
  · rw [writtenNumber]
    split
    next hSteps =>
      rw [named?_zero, shortest_shown_of_steps hSteps, neg_zero, ite_self]
    next => exact named?_text negative _
  · show write (.finite (!negative) m) places = _
    rw [write_eq_shown]
    split
    next => rfl
    next hSteps =>
      have hForm : IsResult _ (Binary64.finite true (shown m (min places maxPlaces))).text :=
        isResult_text true (min_le_right places maxPlaces) hSteps rfl
      have hNotZero : (shown m (min places maxPlaces)).shortest.write ≠ ['0'] := by
        intro hZero
        exact hForm.ne_minus_zero (congrArg ('-' :: ·) hZero)
      rw [opposite_text negative hNotZero]

/-- **The display keeps order and sign.** Of two finite numbers the smaller one is
not displayed as the larger; and the opposite of a number is displayed as the same
digits with the other sign, zero having none. -/
theorem write_keeps_order (places : ℕ) :
    (∀ x y : Binary64, x.isFinite = true → y.isFinite = true → x.exact ≤ y.exact →
      ∃ s t p q, write x places = .ok s ∧ write y places = .ok t ∧
        named? s = some p ∧ named? t = some q ∧ p ≤ q) ∧
    ∀ x : Binary64, x.isFinite = true →
      ∃ s, write x places = .ok s ∧ write (-x) places = .ok (opposite s) := by
  constructor
  · intro x y hx hy h
    obtain ⟨s, hShown, hNamed, -⟩ := exists_write_named hx places
    obtain ⟨t, hOther, hOtherNamed, -⟩ := exists_write_named hy places
    exact ⟨s, t, _, _, hShown, hOther, hNamed, hOtherNamed, writtenNumber_mono hx hy h places⟩
  · intro x hx
    obtain ⟨s, hShown, -, hOpposite⟩ := exists_write_named hx places
    exact ⟨s, hShown, hOpposite⟩

/-- The number nearest to 0.15 lies just below it and the next one above it, so with
one place they are displayed apart; below zero they stand the other way round. -/
theorem write_keeps_order_border :
    let x : Binary64 := .finite false ⟨0x3fc3333333333333, by decide⟩
    let y : Binary64 := .finite false ⟨0x3fc3333333333334, by decide⟩
    x.isFinite = true ∧ y.isFinite = true ∧ x.exact ≤ y.exact ∧
      write x 1 = .ok "0.1".toList ∧ write y 1 = .ok "0.2".toList ∧
      (∃ p q, named? "0.1".toList = some p ∧ named? "0.2".toList = some q ∧ p ≤ q) ∧
      write (-x) 1 = .ok "-0.1".toList ∧ write (-y) 1 = .ok "-0.2".toList := by
  intro x y
  have hOrder : x.exact ≤ y.exact := by decide +kernel
  have hFirst : (write x 1).toOption = some "0.1".toList := by decide +kernel
  have hSecond : (write y 1).toOption = some "0.2".toList := by decide +kernel
  obtain ⟨hKeeps, hTurns⟩ := write_keeps_order 1
  obtain ⟨s, t, p, q, hs, ht, hp, hq, hLess⟩ := hKeeps x y rfl rfl hOrder
  obtain ⟨_, hsAgain, hsOpposite⟩ := hTurns x rfl
  obtain ⟨_, htAgain, htOpposite⟩ := hTurns y rfl
  obtain rfl := Except.ok.inj (hs.symm.trans hsAgain)
  obtain rfl := Except.ok.inj (ht.symm.trans htAgain)
  rw [hs] at hFirst
  rw [ht] at hSecond
  cases hFirst
  cases hSecond
  exact ⟨rfl, rfl, hOrder, hs, ht, ⟨p, q, hp, hq, hLess⟩, hsOpposite, htOpposite⟩

end Display

end DeskCalc
