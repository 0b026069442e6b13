import DeskCalc.Proofs.Session.Recording
import Mathlib.Data.List.DropRight

/-!
# What is listed after a run

A history is filled and emptied in any order. What it lists at the end depends on
two parts of the run only: how much was added up to the last clearing, and what
was added since. The later part is listed, the newest first and no more than the
limit; the numbers count on from the earlier part. So an entry's number is its
place among all additions of the run, which is why a look-up may take the first
entry that fits.

## Main results

* `History.run_eq` — the history after a run.
* `History.getElem?_entries_run` — the entry at each position of the list.
* `History.exists_listed_iff` — the numbers that are listed.
* `history_listing` — what is listed and what is found, after every run.
-/

namespace DeskCalc

namespace History

/-- What can be done to a history. -/
inductive Operation where
  | record (expression result : Text)
  | clear
deriving DecidableEq, Repr

/-- The history after an operation. -/
def apply (h : History) : Operation → History
  | .record expression result => h.record expression result
  | .clear => h.clear

/-- The history after a run of operations. -/
def run (h : History) (operations : List Operation) : History := operations.foldl apply h

theorem run_append (h : History) (first second : List Operation) :
    h.run (first ++ second) = (h.run first).run second :=
  List.foldl_append

namespace Operation

/-- The expression and the result that an operation adds. -/
def addition? : Operation → Option (Text × Text)
  | .record expression result => some (expression, result)
  | .clear => none

/-- All that a run adds, in order. -/
def additions (operations : List Operation) : List (Text × Text) :=
  operations.filterMap addition?

/-- The part of a run behind the last clearing. -/
def sinceClear (operations : List Operation) : List Operation :=
  operations.rtakeWhile (· ≠ .clear)

/-- The part of a run that ends with the last clearing. -/
def upToClear (operations : List Operation) : List Operation :=
  operations.rdropWhile (· ≠ .clear)

/-- What a run adds behind the last clearing, each addition with the number of
those in front of it in the whole run. -/
def current (operations : List Operation) : List Entry :=
  (additions (sinceClear operations)).mapIdx fun n texts =>
    ⟨(additions (upToClear operations)).length + n, texts.1, texts.2⟩

theorem additions_append (first second : List Operation) :
    additions (first ++ second) = additions first ++ additions second :=
  List.filterMap_append

/-- The two parts make up the whole. -/
theorem additions_eq (operations : List Operation) :
    additions operations =
      additions (upToClear operations) ++ additions (sinceClear operations) := by
  rw [← additions_append, upToClear, sinceClear, List.rdropWhile_append_rtakeWhile]

@[simp] theorem length_current (operations : List Operation) :
    (current operations).length = (additions (sinceClear operations)).length := by
  simp [current]

theorem current_record (operations : List Operation) (expression result : Text) :
    current (operations ++ [.record expression result]) =
      current operations ++ [⟨(additions operations).length, expression, result⟩] := by
  have hUpTo : upToClear (operations ++ [.record expression result]) = upToClear operations :=
    List.rdropWhile_concat_pos _ _ _ (by simp)
  have hSince : sinceClear (operations ++ [.record expression result]) =
      sinceClear operations ++ [.record expression result] :=
    List.rtakeWhile_concat_pos _ _ _ (by simp)
  have hAdded : additions [.record expression result] = [(expression, result)] := rfl
  have hCount : (additions operations).length =
      (additions (upToClear operations)).length + (additions (sinceClear operations)).length := by
    rw [additions_eq, List.length_append]
  rw [current, hUpTo, hSince, additions_append, hAdded, List.mapIdx_concat, hCount]
  rfl

theorem current_clear (operations : List Operation) :
    current (operations ++ [.clear]) = [] := by
  have hSince : sinceClear (operations ++ [.clear]) = [] :=
    List.rtakeWhile_concat_neg _ _ _ (by simp)
  rw [current, hSince]
  rfl

/-- A number is a place among all additions of the run. -/
theorem getElem?_current {operations : List Operation} {i : Nat} {e : Entry} :
    (current operations)[i]? = some e ↔
      e.number = (additions (upToClear operations)).length + i ∧
        (additions operations)[e.number]? = some (e.expression, e.result) := by
  have hPlace : (additions operations)[(additions (upToClear operations)).length + i]? =
      (additions (sinceClear operations))[i]? := by
    rw [additions_eq, List.getElem?_append_right (Nat.le_add_right _ i), Nat.add_sub_cancel_left]
  rw [current, List.getElem?_mapIdx, Option.map_eq_some_iff]
  constructor
  · rintro ⟨texts, hTexts, rfl⟩
    exact ⟨rfl, hPlace.trans hTexts⟩
  · rintro ⟨hNumber, hTexts⟩
    rw [hNumber, hPlace] at hTexts
    exact ⟨_, hTexts, by rw [← hNumber]⟩

end Operation

open Operation

/-- **The history after a run.** -/
theorem run_eq (operations : List Operation) :
    empty.run operations =
      ⟨(current operations).reverse.take limit, (additions operations).length⟩ := by
  induction operations using List.reverseRecOn with
  | nil => rfl
  | append_singleton operations operation ih =>
      rw [run_append, ih]
      cases operation with
      | clear =>
          rw [current_clear, additions_append]
          simp [run, apply, clear, additions, addition?]
      | record expression result =>
          rw [current_record, additions_append]
          simp [run, apply, record, additions, addition?, List.take_take, limit]

theorem next_run (operations : List Operation) :
    (empty.run operations).next = (additions operations).length := by
  rw [run_eq]

/-- What every addition and every clearing keeps, a run keeps. -/
theorem run_preserves {P : History → Prop}
    (hRecord : ∀ h expression result, P h → P (h.record expression result))
    (hClear : ∀ h, P h → P h.clear) {h : History} (hStart : P h) (operations : List Operation) :
    P (h.run operations) := by
  induction operations generalizing h with
  | nil => exact hStart
  | cons operation rest ih =>
      cases operation with
      | record expression result => exact ih (hRecord h expression result hStart)
      | clear => exact ih (hClear h hStart)

theorem wellNumbered_run (operations : List Operation) :
    (empty.run operations).WellNumbered :=
  run_preserves (fun _ expression result hWell => hWell.record expression result)
    (fun h _ => h.wellNumbered_clear) wellNumbered_empty operations

theorem precedes_run (h : History) (operations : List Operation) :
    h.Precedes (h.run operations) :=
  run_preserves (fun later expression result hBefore =>
      hBefore.trans (later.precedes_record expression result))
    (fun later hBefore => hBefore.trans later.precedes_clear) (.refl h) operations

theorem length_entries_run (operations : List Operation) :
    (empty.run operations).entries.length =
      min limit (additions (sinceClear operations)).length := by
  rw [run_eq, List.length_take, List.length_reverse, length_current]

/-- **The entry at each position**, counted from the newest: its number is its
place among all additions of the run. -/
theorem getElem?_entries_run {operations : List Operation} {i : Nat} {e : Entry} :
    (empty.run operations).entries[i]? = some e ↔
      i < (empty.run operations).entries.length ∧
        e.number + i + 1 = (additions operations).length ∧
        (additions operations)[e.number]? = some (e.expression, e.result) := by
  have hCount : (additions operations).length =
      (additions (upToClear operations)).length + (additions (sinceClear operations)).length := by
    rw [additions_eq, List.length_append]
  rw [length_entries_run]
  by_cases hListed : i < min limit (additions (sinceClear operations)).length
  · have hCurrent : i < (current operations).length := by
      rw [length_current]
      omega
    rw [run_eq, List.getElem?_take_of_lt (by omega), List.getElem?_reverse hCurrent,
      getElem?_current, length_current]
    constructor
    · rintro ⟨hNumber, hTexts⟩
      exact ⟨hListed, by omega, hTexts⟩
    · rintro ⟨-, hNumber, hTexts⟩
      exact ⟨by omega, hTexts⟩
  · constructor
    · intro h
      obtain ⟨hBound, -⟩ := List.getElem?_eq_some_iff.1 h
      rw [length_entries_run] at hBound
      contradiction
    · rintro ⟨hBound, -⟩
      contradiction

/-- **The numbers listed**: those of the latest additions, as many as there are
entries. -/
theorem exists_listed_iff {operations : List Operation} {number : Nat} :
    (∃ e ∈ (empty.run operations).entries, e.number = number) ↔
      number < (additions operations).length ∧
        (additions operations).length ≤ number + (empty.run operations).entries.length := by
  constructor
  · rintro ⟨e, he, rfl⟩
    obtain ⟨i, hi⟩ := List.mem_iff_getElem?.1 he
    obtain ⟨hPosition, hPlace, -⟩ := getElem?_entries_run.1 hi
    omega
  · rintro ⟨hBound, hKept⟩
    have hPlace : (additions operations)[number]? = some (additions operations)[number] :=
      List.getElem?_eq_getElem hBound
    -- the position that belongs to the number, counted from the newest
    have hListed : (empty.run operations).entries[(additions operations).length - 1 - number]? =
        some ⟨number, (additions operations)[number].1, (additions operations)[number].2⟩ := by
      rw [getElem?_entries_run]
      exact ⟨by omega, by dsimp only; omega, hPlace⟩
    exact ⟨_, List.mem_of_getElem? hListed, rfl⟩

end History

/-- What a history lists and finds after a run of operations. -/
structure History.Lists (h : History) (operations : List History.Operation) : Prop where
  /-- The latest additions since the last clearing, the newest first. -/
  entries_eq : h.entries = (Operation.current operations).reverse.take limit
  /-- No more than the limit are listed. -/
  length_eq : h.entries.length =
    min limit (Operation.additions (Operation.sinceClear operations)).length
  /-- Nothing is listed exactly if nothing was added since the last clearing. -/
  entries_eq_nil_iff :
    h.entries = [] ↔ Operation.additions (Operation.sinceClear operations) = []
  /-- Numbers decrease along the list. -/
  decreasing : h.entries.Pairwise fun a b => b.number < a.number
  /-- An entry's number is its place among all additions of the run, and so below
  their count. -/
  numbered : ∀ e ∈ h.entries,
    (Operation.additions operations)[e.number]? = some (e.expression, e.result)
  /-- A look-up finds exactly the listed entry. -/
  found : ∀ number e, h.find? number = some e ↔ e ∈ h.entries ∧ e.number = number
  /-- Nothing is found under the numbers of additions dropped or cleared, nor
  under a number not given yet. -/
  missing : ∀ number, h.find? number = none ↔
    number + h.entries.length < (Operation.additions operations).length ∨
      (Operation.additions operations).length ≤ number

theorem History.lists_run (operations : List History.Operation) :
    (empty.run operations).Lists operations where
  entries_eq := by rw [run_eq]
  length_eq := length_entries_run operations
  entries_eq_nil_iff := by
    rw [← List.length_eq_zero_iff, ← List.length_eq_zero_iff, length_entries_run, limit]
    omega
  decreasing := (wellNumbered_run operations).1
  numbered e he := by
    obtain ⟨i, hi⟩ := List.mem_iff_getElem?.1 he
    exact (getElem?_entries_run.1 hi).2.2
  found _ _ := (wellNumbered_run operations).find?_eq_some_iff
  missing number := by
    have hNone : (empty.run operations).find? number = none ↔
        ¬ ∃ e ∈ (empty.run operations).entries, e.number = number := by
      simp [find?]
    rw [hNone, exists_listed_iff]
    omega

/-- **What is listed and what is found, after every run** of additions and
clearings. Of what was added since the last clearing the latest entries are
listed, each with its own texts and with the number of additions in front of it,
so that a look-up finds every one of them and nothing else. However the run goes
on, a number that has been given names the same entry or nothing, and nothing
for good once it has named nothing. -/
theorem history_listing (operations : List History.Operation) :
    (History.empty.run operations).Lists operations ∧
    ∀ more : List History.Operation,
      (History.empty.run operations).Consistent (History.empty.run (operations ++ more)) ∧
      ∀ number < (History.Operation.additions operations).length,
        (History.empty.run operations).find? number = none →
          (History.empty.run (operations ++ more)).find? number = none := by
  refine ⟨History.lists_run operations, ?_⟩
  intro more
  have hWell := History.wellNumbered_run operations
  have hPrecedes : (History.empty.run operations).Precedes
      (History.empty.run (operations ++ more)) := by
    rw [History.run_append]
    exact History.precedes_run _ more
  refine ⟨hWell.consistent hPrecedes, ?_⟩
  intro number hGiven hNone
  rw [← History.next_run] at hGiven
  rw [History.find?, List.find?_eq_none] at hNone ⊢
  intro e he
  rcases hPrecedes.listed e he with hListed | hNew
  · exact hNone e hListed
  · have hOther : e.number ≠ number := by omega
    simpa using hOther

/-- The number of a cleared entry stays unused, and the next entry has the next
number. -/
theorem history_listing_cleared :
    let first : List History.Operation :=
      [.record ['1'] ['1'], .clear, .record ['2'] ['2']]
    let later := first ++ [.record ['3'] ['3']]
    (History.empty.run first).find? 0 = none ∧
      (History.empty.run first).find? 1 = some ⟨1, ['2'], ['2']⟩ ∧
      (History.empty.run later).find? 0 = none := by
  intro first later
  obtain ⟨hLists, hMore⟩ := history_listing first
  have hNone : (History.empty.run first).find? 0 = none := (hLists.missing 0).2 (by decide)
  have hListed : (⟨1, ['2'], ['2']⟩ : Entry) ∈ (History.empty.run first).entries := by decide
  exact ⟨hNone, (hLists.found 1 _).2 ⟨hListed, rfl⟩,
    (hMore [.record ['3'] ['3']]).2 0 (by decide) hNone⟩

end DeskCalc
