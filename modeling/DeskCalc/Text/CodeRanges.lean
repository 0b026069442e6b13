/-!
# Classes of characters as ranges of code points

A class of characters is given by closed ranges of code points, ascending and
with a gap between any two. `covers` looks a character up.
-/

namespace DeskCalc

/-- The ranges are not empty, ascend, and have a gap between any two. -/
def CodeRanges.areApart : List (Nat × Nat) → Bool
  | [] => true
  | [last] => last.1 ≤ last.2
  | first :: second :: rest =>
      first.1 ≤ first.2 && first.2 + 1 < second.1 && areApart (second :: rest)

/-- Closed ranges of code points. -/
structure CodeRanges where
  ranges : List (Nat × Nat)
  apart : CodeRanges.areApart ranges = true

namespace CodeRanges

/-- The code point of the character lies in one of the ranges. -/
def covers (r : CodeRanges) (c : Char) : Bool :=
  r.ranges.any fun range => range.1 ≤ c.toNat && c.toNat ≤ range.2

end CodeRanges

end DeskCalc
