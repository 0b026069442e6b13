import DeskCalc.Text.Blank

/-!
# Natural numbers in decimal digits

`write` gives the digits of a natural number without superfluous zeros and
`read` the number that a run of digits names. `writePadded` gives exactly as
many digits as asked for, zeros in front.

## Main results

* `read_write` — what is written reads back.
* `length_writePadded` — a padded writing has the length asked for.
-/

namespace DeskCalc.Digits

/-- The character of a digit below ten. -/
def char (d : Nat) : Char := Char.ofNat ('0'.toNat + d)

/-- The value of a digit character. -/
def value (c : Char) : Nat := c.toNat - '0'.toNat

/-- Decimal digits, the most significant first. -/
def write (n : Nat) : Text :=
  if n < 10 then [char n] else write (n / 10) ++ [char (n % 10)]

/-- The `count` low digits of `n`, the most significant first. -/
def writePadded : Nat → Nat → Text
  | 0, _ => []
  | count + 1, n => writePadded count (n / 10) ++ [char (n % 10)]

/-- The number named by a run of digits; the empty run names zero. -/
def read (digits : Text) : Nat :=
  digits.foldl (fun n c => 10 * n + value c) 0

/-- The sign in front of a text and what follows it. -/
def splitSign : Text → Bool × Text
  | '-' :: rest => (true, rest)
  | '+' :: rest => (false, rest)
  | s => (false, s)

/-- A nonempty run of digits as a number. -/
def read? (s : Text) : Option Nat :=
  if s.isEmpty || !s.all Char.isDigit then none else some (read s)

/-- How many digits `write` needs. -/
def count (n : Nat) : Nat :=
  if n < 10 then 1 else count (n / 10) + 1

theorem value_char {d : Nat} (h : d < 10) : value (char d) = d := by
  have hAll : ∀ e : Fin 10, value (char e.val) = e.val := by decide
  exact hAll ⟨d, h⟩

theorem isDigit_char {d : Nat} (h : d < 10) : (char d).isDigit = true := by
  have hAll : ∀ e : Fin 10, (char e.val).isDigit = true := by decide
  exact hAll ⟨d, h⟩

/-- One more digit at the end. -/
theorem read_append_singleton (digits : Text) (c : Char) :
    read (digits ++ [c]) = 10 * read digits + value c := by
  simp [read]

theorem read_write (n : Nat) : read (write n) = n := by
  fun_induction write n with
  | case1 n h => simp [read, value_char h]
  | case2 n h ih =>
      rw [read_append_singleton, ih, value_char (Nat.mod_lt _ (by decide))]
      omega

@[simp] theorem length_writePadded (width n : Nat) :
    (writePadded width n).length = width := by
  induction width generalizing n with
  | zero => rfl
  | succ width ih => simp [writePadded, ih]

theorem isDigit_of_mem_write {n : Nat} {c : Char} (h : c ∈ write n) :
    c.isDigit = true := by
  fun_induction write n with
  | case1 n hn =>
      simp only [List.mem_singleton] at h
      exact h ▸ isDigit_char hn
  | case2 n _ ih =>
      rcases List.mem_append.1 h with h | h
      · exact ih h
      · simp only [List.mem_singleton] at h
        exact h ▸ isDigit_char (Nat.mod_lt _ (by decide))

end DeskCalc.Digits
