import DeskCalc.Text.Blank

/-!
# Cutting a text into pieces

`splitOn` cuts at every occurrence of one character and `splitLines` at every
line end, a line feed or a carriage return with a line feed. Both keep empty
pieces, so a text has one piece more than it has cuts. A carriage return that
stands alone is no line end.
-/

namespace DeskCalc.Text

/-- Put a character in front of the first piece. -/
def consFirst (c : Char) : List Text → List Text
  | [] => [[c]]
  | piece :: pieces => (c :: piece) :: pieces

/-- The pieces between the occurrences of `separator`. -/
def splitOn (separator : Char) : Text → List Text
  | [] => [[]]
  | c :: rest =>
      if c = separator then [] :: splitOn separator rest
      else consFirst c (splitOn separator rest)

/-- The lines of a text without their ends. -/
def splitLines : Text → List Text
  | [] => [[]]
  | '\n' :: rest => [] :: splitLines rest
  | '\r' :: '\n' :: rest => [] :: splitLines rest
  | c :: rest => consFirst c (splitLines rest)

theorem splitOn_ne_nil (separator : Char) (s : Text) : splitOn separator s ≠ [] := by
  cases s with
  | nil => simp [splitOn]
  | cons c rest =>
      unfold splitOn
      split
      · simp
      · unfold consFirst
        split <;> simp

end DeskCalc.Text
