import DeskCalc.Text.CodeRanges

/-!
# Texts and their blanks

Everything the calculator reads is a `Text`, a list of Unicode scalar values,
so that a scan is a recursion on the list. A *blank* is a character with the
Unicode property White_Space. Blanks separate, and are never part of, what is
read.

`trim` removes the blanks at both ends and nothing else.
-/

namespace DeskCalc

/-- A text as the list of its characters. -/
abbrev Text := List Char

namespace Text

/-- The ranges of code points that have the property White_Space, both ends
included. -/
def blankRanges : CodeRanges where
  ranges :=
    [(0x0009, 0x000D), (0x0020, 0x0020), (0x0085, 0x0085), (0x00A0, 0x00A0),
     (0x1680, 0x1680), (0x2000, 0x200A), (0x2028, 0x2029), (0x202F, 0x202F),
     (0x205F, 0x205F), (0x3000, 0x3000)]
  apart := by decide +kernel

/-- A character is blank when its code point lies in one of `blankRanges`. -/
def isBlank (c : Char) : Bool := blankRanges.covers c

/-- The text without the run of blanks in front. -/
def trimFront (s : Text) : Text := s.dropWhile isBlank

/-- The text without the run of blanks at its end. -/
def trimBack (s : Text) : Text := (trimFront s.reverse).reverse

/-- The text without the blanks at its two ends. -/
def trim (s : Text) : Text := trimBack (trimFront s)

theorem trimFront_eq_nil_iff {s : Text} :
    trimFront s = [] ↔ ∀ c ∈ s, isBlank c = true := by
  induction s with
  | nil => simp [trimFront]
  | cons c rest ih =>
      by_cases h : isBlank c = true
      · have hTail : trimFront (c :: rest) = trimFront rest := List.dropWhile_cons_of_pos h
        simp [hTail, h, ih]
      · simp [trimFront, h]

/-- Nothing is left after trimming exactly when every character is blank. -/
theorem trim_eq_nil_iff {s : Text} :
    trim s = [] ↔ ∀ c ∈ s, isBlank c = true := by
  constructor
  · intro h
    have hFront : ∀ c ∈ trimFront s, isBlank c = true := by
      have : trimFront (trimFront s).reverse = [] := by
        simpa [trim, trimBack] using h
      simpa using trimFront_eq_nil_iff.1 this
    cases hs : trimFront s with
    | nil => exact trimFront_eq_nil_iff.1 hs
    | cons c rest =>
        have hNot := List.head?_dropWhile_not isBlank s
        have hHead : (s.dropWhile isBlank).head? = some c := by
          have : s.dropWhile isBlank = c :: rest := hs
          rw [this]; rfl
        rw [hHead] at hNot
        have hBlank := hFront c (by rw [hs]; simp)
        simp [hBlank] at hNot
  · intro h
    rw [trim, trimFront_eq_nil_iff.2 h]
    rfl

/-- What a trimmed text starts with is trimmed in front. -/
theorem trimFront_of_prefix {s t : Text} (h : t <+: trimFront s) : trimFront t = t := by
  cases t with
  | nil => rfl
  | cons c rest =>
      obtain ⟨back, hBack⟩ := h
      have hNot := List.head?_dropWhile_not isBlank s
      have hHead : (s.dropWhile isBlank).head? = some c := by
        have : s.dropWhile isBlank = c :: rest ++ back := hBack.symm
        rw [this]; rfl
      rw [hHead] at hNot
      exact List.dropWhile_cons_of_neg (by simpa using hNot)

theorem isPrefix_trimBack (s : Text) : trimBack s <+: s := by
  have hSuffix : trimFront s.reverse <:+ s.reverse := List.dropWhile_suffix isBlank
  simpa [trimBack] using List.reverse_prefix.2 hSuffix

/-- A trimmed text stays as it is. -/
theorem trim_trim (s : Text) : s.trim.trim = s.trim := by
  have hFront : trimFront s.trim = s.trim := trimFront_of_prefix (isPrefix_trimBack _)
  have hBack : trimBack s.trim = s.trim := by
    rw [trim, trimBack, trimBack, List.reverse_reverse, trimFront_of_prefix (List.prefix_refl _)]
  rw [trim, hFront, hBack]

end Text

end DeskCalc
