import DeskCalc.Text.Split

/-!
# Where a text is cut

A run of characters of one kind ends at the first of another kind. Cutting at line
ends is decided from the left by the first line end alone, so a line can be read
off the front of a text, whatever follows it.

## Main results

* `takeWhile_dropWhile_run` — a run of one kind is split off whole.
* `splitLines_append` — what holds no line end stands at the front of the first
  line.
* `splitLines_cases` — what a text is in terms of its first line.
-/

namespace DeskCalc.Text

/-- A run of one kind in front of a text that does not go on with that kind is
split off whole. -/
theorem takeWhile_dropWhile_run {p : Char → Bool} {run rest : Text}
    (hRun : ∀ c ∈ run, p c = true) (hStops : ∀ c, rest.head? = some c → p c = false) :
    (run ++ rest).takeWhile p = run ∧ (run ++ rest).dropWhile p = rest := by
  rw [List.takeWhile_append_of_pos hRun, List.dropWhile_append_of_pos hRun]
  cases rest with
  | nil => exact ⟨List.append_nil run, rfl⟩
  | cons c rest =>
      have hNot : ¬ p c = true := by rw [hStops c rfl]; decide
      rw [List.takeWhile_cons_of_neg hNot, List.dropWhile_cons_of_neg hNot, List.append_nil]
      exact ⟨rfl, rfl⟩

/-- What is left behind a run does not go on with it. -/
theorem dropWhile_stops (p : Char → Bool) (s : Text) :
    ∀ c, (s.dropWhile p).head? = some c → p c = false := by
  intro c hc
  have hNot := List.head?_dropWhile_not p s
  rw [hc] at hNot
  simpa using hNot

/-- An end of a line. -/
inductive LineEnd : Text → Prop where
  | feed : LineEnd ['\n']
  | returnFeed : LineEnd ['\r', '\n']

theorem consFirst_eq_modifyHead (c : Char) {pieces : List Text} (h : pieces ≠ []) :
    consFirst c pieces = pieces.modifyHead (List.cons c) := by
  obtain ⟨piece, rest, rfl⟩ := List.exists_cons_of_ne_nil h
  rfl

/-- Cutting at a character is the library's. -/
theorem splitOn_eq (separator : Char) (s : Text) :
    splitOn separator s = List.splitOn separator s := by
  induction s with
  | nil => rfl
  | cons c rest ih =>
      rw [splitOn, consFirst_eq_modifyHead c (splitOn_ne_nil separator rest), ih,
        List.splitOn_eq_splitOnP, List.splitOn_eq_splitOnP, List.splitOnP_cons_eq_if_modifyHead]
      simp only [beq_iff_eq]

theorem splitLines_ne_nil (s : Text) : splitLines s ≠ [] := by
  fun_cases splitLines s with
  | case4 c rest h =>
      unfold consFirst
      split <;> simp
  | _ => simp

theorem splitLines_cons {c : Char} (hFeed : c ≠ '\n') (hReturn : c ≠ '\r') (rest : Text) :
    splitLines (c :: rest) = consFirst c (splitLines rest) := by
  rw [splitLines]
  · exact hFeed
  · intro rest' hOther
    exact absurd hOther hReturn

/-- **What holds no line end stands at the front of the first line.** -/
theorem splitLines_append {before rest first : Text} {more : List Text}
    (h : ∀ c ∈ before, c ≠ '\n' ∧ c ≠ '\r') (hRest : splitLines rest = first :: more) :
    splitLines (before ++ rest) = (before ++ first) :: more := by
  induction before with
  | nil => exact hRest
  | cons c before ih =>
      obtain ⟨hFeed, hReturn⟩ := h c List.mem_cons_self
      rw [List.cons_append, splitLines_cons hFeed hReturn,
        ih fun d hd => h d (List.mem_cons_of_mem c hd)]
      rfl

theorem splitLines_lineEnd {ending : Text} (h : LineEnd ending) (rest : Text) :
    splitLines (ending ++ rest) = [] :: splitLines rest := by
  cases h <;> rfl

/-- **A text is its first line**, or that with a line end and the other lines
behind it. -/
theorem splitLines_cases {s first : Text} {more : List Text} (h : splitLines s = first :: more) :
    (s = first ∧ more = []) ∨
      ∃ ending rest, LineEnd ending ∧ s = first ++ (ending ++ rest) ∧ more = splitLines rest := by
  fun_induction splitLines s generalizing first with
  | case1 =>
      cases h
      exact .inl ⟨rfl, rfl⟩
  | case2 rest ih =>
      cases h
      exact .inr ⟨['\n'], rest, .feed, rfl, rfl⟩
  | case3 rest ih =>
      cases h
      exact .inr ⟨['\r', '\n'], rest, .returnFeed, rfl, rfl⟩
  | case4 c rest hFeed hReturn ih =>
      obtain ⟨piece, pieces, hPieces⟩ := List.exists_cons_of_ne_nil (splitLines_ne_nil rest)
      rw [hPieces] at h
      cases h
      rcases ih hPieces with ⟨rfl, hNone⟩ | ⟨ending, tail, hEnding, rfl, hMore⟩
      · exact .inl ⟨rfl, hNone⟩
      · exact .inr ⟨ending, tail, hEnding, rfl, hMore⟩

end DeskCalc.Text
