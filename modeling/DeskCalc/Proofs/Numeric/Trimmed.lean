import DeskCalc.Proofs.Numeric.Numeral

/-!
# Fractions without superfluous zeros

`trimFraction` works on the text alone: it takes away the zeros that end a
fraction, and a point that is left at the end. On a written decimal this is
division of units and places by the same power of ten.

## Main results

* `trimFraction_writeUnsigned` — trimming a decimal divides by powers of ten.
* `trimFraction_whole` — a whole number loses its point.
-/

namespace DeskCalc

/-- A positional writing without the zeros that end its fraction, and without a
point at its end. -/
def trimFraction (s : Text) : Text :=
  if '.' ∈ s then
    ((s.reverse.dropWhile fun c => c == '0').dropWhile fun c => c == '.').reverse
  else s

theorem trimFraction_of_not_mem {s : Text} (h : '.' ∉ s) : trimFraction s = s := if_neg h

theorem dropWhile_zeros (zeros : Nat) (rest : Text) {c : Char} (h : c ≠ '0') :
    (List.replicate zeros '0' ++ c :: rest).dropWhile (fun d => d == '0') = c :: rest := by
  induction zeros with
  | zero => simp [h]
  | succ zeros ih =>
      rw [List.replicate_succ, List.cons_append, List.dropWhile_cons_of_pos rfl]
      exact ih

theorem dropWhile_point (rest : Text) {c : Char} (h : c ≠ '.') :
    (c :: rest).dropWhile (fun d => d == '.') = c :: rest := by
  simp [h]

theorem trimFraction_fraction (front body : Text) {last : Char} (zeros : Nat)
    (hZero : last ≠ '0') (hPoint : last ≠ '.') :
    trimFraction (front ++ '.' :: (body ++ [last] ++ List.replicate zeros '0')) =
      front ++ '.' :: (body ++ [last]) := by
  have hMem : '.' ∈ front ++ '.' :: (body ++ [last] ++ List.replicate zeros '0') := by simp
  have hReverse : (front ++ '.' :: (body ++ [last] ++ List.replicate zeros '0')).reverse =
      List.replicate zeros '0' ++ last :: (front ++ '.' :: body).reverse := by
    simp
  rw [trimFraction, if_pos hMem, hReverse, dropWhile_zeros _ _ hZero, dropWhile_point _ hPoint]
  simp

theorem trimFraction_zeros (body : Text) {last : Char} (zeros : Nat) (hPoint : last ≠ '.') :
    trimFraction (body ++ [last] ++ '.' :: List.replicate zeros '0') = body ++ [last] := by
  have hMem : '.' ∈ body ++ [last] ++ '.' :: List.replicate zeros '0' := by simp
  have hReverse : (body ++ [last] ++ '.' :: List.replicate zeros '0').reverse =
      List.replicate zeros '0' ++ '.' :: last :: body.reverse := by
    simp
  rw [trimFraction, if_pos hMem, hReverse, dropWhile_zeros _ _ (by decide),
    List.dropWhile_cons_of_pos rfl, dropWhile_point _ hPoint]
  simp

/-! ## Written decimals -/

/-- A factor of ten is a zero at the end. -/
theorem writePadded_mul_pow (width zeros n : Nat) :
    Digits.writePadded (width + zeros) (n * 10 ^ zeros) =
      Digits.writePadded width n ++ List.replicate zeros '0' := by
  induction zeros with
  | zero =>
      rw [Nat.pow_zero, Nat.mul_one]
      exact (List.append_nil _).symm
  | succ zeros ih =>
      have hDiv : n * 10 ^ (zeros + 1) / 10 = n * 10 ^ zeros := by
        rw [Nat.pow_succ, ← Nat.mul_assoc]
        exact Nat.mul_div_cancel _ (by decide)
      have hMod : n * 10 ^ (zeros + 1) % 10 = 0 := by
        rw [Nat.pow_succ, ← Nat.mul_assoc]
        exact Nat.mul_mod_left _ _
      have hZero : Digits.char 0 = '0' := rfl
      rw [← Nat.add_assoc, Digits.writePadded, hDiv, hMod, ih, List.append_assoc,
        List.replicate_succ', hZero]

theorem Digits.char_ne_zero {d : Nat} (hDigit : d < 10) (hNonzero : d ≠ 0) : char d ≠ '0' := by
  have hAll : ∀ e : Fin 10, e.val ≠ 0 → char e.val ≠ '0' := by decide
  exact hAll ⟨d, hDigit⟩ hNonzero

theorem Digits.char_ne_point {d : Nat} (hDigit : d < 10) : char d ≠ '.' := by
  have hAll : ∀ e : Fin 10, char e.val ≠ '.' := by decide
  exact hAll ⟨d, hDigit⟩

theorem Digits.exists_write_eq_append (n : Nat) :
    ∃ body last, write n = body ++ [last] ∧ last ≠ '.' := by
  rw [write]
  split
  next h => exact ⟨[], char n, rfl, char_ne_point h⟩
  next => exact ⟨_, _, rfl, char_ne_point (Nat.mod_lt _ (by decide))⟩

theorem Digits.point_not_mem_write (n : Nat) : '.' ∉ write n := by
  intro h
  have := isDigit_of_mem_write h
  exact absurd this (by decide)

/-- **A whole number loses its point.** -/
theorem trimFraction_whole {sign : Text} (hSign : '.' ∉ sign) (n places : Nat) :
    trimFraction (sign ++ Decimal.writeUnsigned (n * 10 ^ places) places) =
      sign ++ Digits.write n := by
  cases places with
  | zero =>
      have hNone : '.' ∉ sign ++ Digits.write n := by
        rw [List.mem_append, not_or]
        exact ⟨hSign, Digits.point_not_mem_write n⟩
      rw [Decimal.writeUnsigned_zero, Nat.pow_zero, Nat.mul_one, trimFraction_of_not_mem hNone]
  | succ places =>
      have hPow : 0 < 10 ^ (places + 1) := Nat.pow_pos (by decide)
      have hZeros : Digits.writePadded (places + 1) 0 = List.replicate (places + 1) '0' := by
        have hMul := writePadded_mul_pow 0 (places + 1) 0
        rw [Nat.zero_mul, Nat.zero_add] at hMul
        exact hMul
      obtain ⟨body, last, hWrite, hPoint⟩ := Digits.exists_write_eq_append n
      rw [Decimal.writeUnsigned_succ, Nat.mul_div_cancel _ hPow, Nat.mul_mod_left, hZeros, hWrite,
        ← List.append_assoc, ← List.append_assoc]
      exact trimFraction_zeros (sign ++ body) (places + 1) hPoint

/-- **Trimming a decimal divides by powers of ten**: zeros that end the units
take away as many places. -/
theorem trimFraction_writeUnsigned {sign : Text} (hSign : '.' ∉ sign) {c : Nat}
    (hDigit : ¬ 10 ∣ c) (zeros places : Nat) :
    trimFraction (sign ++ Decimal.writeUnsigned (c * 10 ^ zeros) places) =
      sign ++ Decimal.writeUnsigned (c * 10 ^ (zeros - places)) (places - zeros) := by
  rcases Nat.lt_or_ge zeros places with hFew | hMany
  · obtain ⟨kept, rfl⟩ := Nat.exists_eq_add_of_lt hFew
    have hNone : zeros - (zeros + kept + 1) = 0 := by omega
    have hKept : zeros + kept + 1 - zeros = kept + 1 := by omega
    have hPlaces : zeros + kept + 1 = kept + 1 + zeros := by omega
    have hPow : 0 < 10 ^ zeros := Nat.pow_pos (by decide)
    have hDiv : c * 10 ^ zeros / 10 ^ (kept + 1 + zeros) = c / 10 ^ (kept + 1) := by
      rw [Nat.pow_add, Nat.mul_div_mul_right _ _ hPow]
    have hMod : c * 10 ^ zeros % 10 ^ (kept + 1 + zeros) = c % 10 ^ (kept + 1) * 10 ^ zeros := by
      rw [Nat.pow_add, Nat.mul_mod_mul_right]
    have hLast : c % 10 ^ (kept + 1) % 10 = c % 10 :=
      Nat.mod_mod_of_dvd c ⟨10 ^ kept, Nat.pow_succ'⟩
    have hBelow : c % 10 < 10 := Nat.mod_lt _ (by decide)
    have hNonzero : c % 10 ≠ 0 := fun h => hDigit (Nat.dvd_of_mod_eq_zero h)
    rw [hNone, hKept, Nat.pow_zero, Nat.mul_one, Decimal.writeUnsigned_succ, hPlaces,
      Decimal.writeUnsigned, if_neg (by omega), hDiv, hMod, writePadded_mul_pow,
      Digits.writePadded, hLast, ← List.append_assoc, ← List.append_assoc]
    exact trimFraction_fraction _ _ zeros (Digits.char_ne_zero hBelow hNonzero)
      (Digits.char_ne_point hBelow)
  · obtain ⟨extra, rfl⟩ := Nat.exists_eq_add_of_le hMany
    have hExtra : places + extra - places = extra := by omega
    have hNone : places - (places + extra) = 0 := by omega
    have hUnits : c * 10 ^ (places + extra) = c * 10 ^ extra * 10 ^ places := by
      rw [Nat.mul_assoc, ← Nat.pow_add, Nat.add_comm places]
    rw [hExtra, hNone, hUnits, trimFraction_whole hSign, Decimal.writeUnsigned_zero]

end DeskCalc
