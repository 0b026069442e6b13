import DeskCalc.Text.Blank

/-!
# The history of results

The history lists successful evaluations, the newest first, and keeps the last
`limit` of them. Each entry has a number of its own: numbers are given in the
order of recording and are not given again, not even after the history has been
cleared.

## Main results

* `WellNumbered.record`, `wellNumbered_clear` — numbers decrease along the list
  and stay below the next one to be given.
* `WellNumbered.find?_eq_some_iff` — a look-up finds exactly the listed entry.
-/

namespace DeskCalc

/-- One recorded evaluation. -/
structure Entry where
  number : Nat
  expression : Text
  result : Text
deriving DecidableEq, Repr

/-- The recorded evaluations. -/
structure History where
  /-- The newest comes first. -/
  entries : List Entry
  /-- The number of the next entry. It stands for an unsigned 64-bit counter and agrees
  with it as long as fewer than `2 ^ 64` entries have been recorded. -/
  next : Nat
deriving DecidableEq, Repr

namespace History

/-- Nothing recorded yet. -/
def empty : History := ⟨[], 0⟩

/-- The number of entries kept. -/
def limit : Nat := 50

/-- Put a new entry in front and drop the oldest beyond the limit. -/
def record (h : History) (expression result : Text) : History :=
  ⟨(⟨h.next, expression, result⟩ :: h.entries).take limit, h.next + 1⟩

/-- Forget the entries; the numbering goes on. -/
def clear (h : History) : History := { h with entries := [] }

/-- The entry with a given number. -/
def find? (h : History) (number : Nat) : Option Entry :=
  h.entries.find? fun e => e.number == number

/-- Numbers decrease along the list and stay below the next one. -/
def WellNumbered (h : History) : Prop :=
  h.entries.Pairwise (fun a b => b.number < a.number) ∧
    ∀ e ∈ h.entries, e.number < h.next

theorem wellNumbered_empty : empty.WellNumbered := by
  simp [WellNumbered, empty]

theorem WellNumbered.record {h : History} (hWell : h.WellNumbered)
    (expression result : Text) : (h.record expression result).WellNumbered := by
  obtain ⟨hOrder, hBelow⟩ := hWell
  constructor
  · apply List.Pairwise.sublist (List.take_sublist _ _)
    exact List.pairwise_cons.2 ⟨hBelow, hOrder⟩
  · intro e he
    rcases List.mem_cons.1 (List.mem_of_mem_take he) with rfl | he
    · exact Nat.lt_succ_self _
    · exact Nat.lt_succ_of_lt (hBelow e he)

theorem wellNumbered_clear (h : History) : h.clear.WellNumbered := by
  simp [WellNumbered, clear]

/-- **A look-up finds exactly the listed entry with that number.** -/
theorem WellNumbered.find?_eq_some_iff {h : History} (hWell : h.WellNumbered)
    {number : Nat} {e : Entry} :
    h.find? number = some e ↔ e ∈ h.entries ∧ e.number = number := by
  constructor
  · intro hFind
    exact ⟨List.mem_of_find?_eq_some hFind, by
      simpa using List.find?_some hFind⟩
  · rintro ⟨hMem, rfl⟩
    obtain ⟨hOrder, -⟩ := hWell
    unfold History.find?
    generalize h.entries = entries at hMem hOrder
    induction entries with
    | nil => simp at hMem
    | cons first rest ih =>
        rw [List.pairwise_cons] at hOrder
        rcases List.mem_cons.1 hMem with rfl | hRest
        · simp
        · have : e.number < first.number := hOrder.1 e hRest
          have hNe : first.number ≠ e.number := by omega
          simpa [List.find?_cons, hNe] using ih hRest hOrder.2

end History

end DeskCalc
