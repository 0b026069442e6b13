import DeskCalc.Numeric.Numeral
import DeskCalc.Proofs.Text.Split

/-!
# A written decimal is a numeral

The writing of an unsigned decimal is digits, and after a point its places, so
it is read as a numeral with the same units and as many places.

## Main results

* `read?_writeUnsigned` — an unsigned decimal reads back.
-/

namespace DeskCalc

theorem Digits.isDigit_of_mem_writePadded {width n : Nat} {c : Char}
    (h : c ∈ writePadded width n) : c.isDigit = true := by
  induction width generalizing n with
  | zero => cases h
  | succ width ih =>
      rw [writePadded] at h
      rcases List.mem_append.1 h with hFront | hLast
      · exact ih hFront
      · rw [List.mem_singleton.1 hLast]
        exact isDigit_char (Nat.mod_lt _ (by decide))

theorem Digits.write_ne_nil (n : Nat) : write n ≠ [] := by
  rw [write]
  split <;> simp

namespace Decimal

theorem writeUnsigned_zero (n : Nat) : writeUnsigned n 0 = Digits.write n := by
  rw [writeUnsigned, Nat.pow_zero, Nat.div_one, if_pos rfl]

theorem writeUnsigned_succ (n places : Nat) :
    writeUnsigned n (places + 1) =
      Digits.write (n / 10 ^ (places + 1)) ++
        '.' :: Digits.writePadded (places + 1) (n % 10 ^ (places + 1)) := by
  rw [writeUnsigned, if_neg (Nat.succ_ne_zero places)]

/-- A written decimal starts with a digit. -/
theorem exists_writeUnsigned_eq (n places : Nat) :
    ∃ c rest, writeUnsigned n places = c :: rest ∧ c.isDigit = true := by
  have hWrite (k : Nat) : ∃ c rest, Digits.write k = c :: rest ∧ c.isDigit = true := by
    cases hDigits : Digits.write k with
    | nil => exact absurd hDigits (Digits.write_ne_nil k)
    | cons c rest =>
        have hMem : c ∈ Digits.write k := by
          rw [hDigits]
          exact List.mem_cons_self
        exact ⟨c, rest, rfl, Digits.isDigit_of_mem_write hMem⟩
  cases places with
  | zero =>
      rw [writeUnsigned_zero]
      exact hWrite n
  | succ places =>
      obtain ⟨c, rest, hDigits, hDigit⟩ := hWrite (n / 10 ^ (places + 1))
      rw [writeUnsigned_succ, hDigits]
      exact ⟨c, _, rfl, hDigit⟩

theorem isNumeric_of_mem_writeUnsigned {n places : Nat} {c : Char}
    (h : c ∈ writeUnsigned n places) : Numeral.isNumeric c = true := by
  unfold Numeral.isNumeric
  rw [Bool.or_eq_true]
  cases places with
  | zero =>
      rw [writeUnsigned_zero] at h
      exact .inl (Digits.isDigit_of_mem_write h)
  | succ places =>
      rw [writeUnsigned_succ] at h
      rcases List.mem_append.1 h with hWhole | hRest
      · exact .inl (Digits.isDigit_of_mem_write hWhole)
      · rcases List.mem_cons.1 hRest with rfl | hPlaces
        · exact .inr rfl
        · exact .inl (Digits.isDigit_of_mem_writePadded hPlaces)

end Decimal

namespace Numeral

/-- **An unsigned decimal reads back**, units and places. -/
theorem read?_writeUnsigned (n places : Nat) :
    read? (Decimal.writeUnsigned n places) = some ⟨n, places⟩ := by
  have hWrite (k : Nat) : ∀ c ∈ Digits.write k, c.isDigit = true := by
    intro c hc
    exact Digits.isDigit_of_mem_write hc
  cases places with
  | zero =>
      have hNoRest : ∀ c, ([] : Text).head? = some c → c.isDigit = false := by
        intro c hc
        cases hc
      obtain ⟨hTake, hDrop⟩ := Text.takeWhile_dropWhile_run (hWrite n) hNoRest
      rw [List.append_nil] at hTake hDrop
      have hNonempty : (Digits.write n).isEmpty = false := by
        simp [Digits.write_ne_nil]
      rw [Decimal.writeUnsigned_zero, read?, hDrop, hTake]
      simp [hNonempty, ofDigits, Digits.read_write]
  | succ places =>
      generalize hFraction : Digits.writePadded (places + 1) (n % 10 ^ (places + 1)) = fraction
      have hDigits : fraction.all Char.isDigit = true := by
        rw [← hFraction, List.all_eq_true]
        intro c hc
        exact Digits.isDigit_of_mem_writePadded hc
      have hLength : fraction.length = places + 1 := by
        rw [← hFraction, Digits.length_writePadded]
      have hRead := Decimal.read_unsigned n (places + 1)
      rw [hFraction] at hRead
      have hRest : ∀ c, ('.' :: fraction).head? = some c → c.isDigit = false := by
        intro c hc
        cases hc
        rfl
      obtain ⟨hTake, hDrop⟩ :=
        Text.takeWhile_dropWhile_run (hWrite (n / 10 ^ (places + 1))) hRest
      rw [Decimal.writeUnsigned_succ, hFraction, read?, hDrop, hTake]
      simp [hDigits, Digits.write_ne_nil, ofDigits, hRead, hLength]

end Numeral

end DeskCalc
