import DeskCalc.Text.Blank

/-!
# Cutting a text at bytes

A text takes one to four bytes of UTF-8 for each character. A place in it is
counted in bytes, and the text can be cut there unless the place lies inside a
character.
-/

namespace DeskCalc.Text

/-- The number of bytes of a text. -/
def byteSize : Text → Nat
  | [] => 0
  | c :: rest => c.utf8Size + byteSize rest

/-- The text from a place on. -/
def fromByte? : Nat → Text → Option Text
  | 0, s => some s
  | _ + 1, [] => none
  | n + 1, c :: rest =>
      if c.utf8Size ≤ n + 1 then fromByte? (n + 1 - c.utf8Size) rest else none

/-- The text up to a place. -/
def beforeByte? : Nat → Text → Option Text
  | 0, _ => some []
  | _ + 1, [] => none
  | n + 1, c :: rest =>
      if c.utf8Size ≤ n + 1 then (beforeByte? (n + 1 - c.utf8Size) rest).map (c :: ·) else none

/-- The text between two places. -/
def between? (start stop : Nat) (s : Text) : Option Text :=
  (fromByte? start s).bind (beforeByte? (stop - start))

end DeskCalc.Text
