import DeskCalc.Text.Blank

/-!
# Switches of a pattern

A pattern can switch how the rest of it, or of a group, is read: `(?x)` lets
blanks and comments stand between its signs, `(?i)` makes the case of letters
not count, `(?-u)` makes it a pattern of bytes. The other switches leave its
form alone.
-/

namespace DeskCalc.Pattern

/-- How a pattern is read. -/
structure Switches where
  /-- The case of letters does not count. -/
  anyCase : Bool
  /-- Blanks and comments may stand between the signs. -/
  spaced : Bool
  /-- The pattern is about characters, not about bytes. -/
  unicode : Bool
deriving DecidableEq, Repr

namespace Switches

/-- How a pattern is read at first. -/
def start : Switches := ⟨false, false, true⟩

/-- The letters of the switches. -/
def letters : Text := "imsUuRx".toList

/-- A run of letters of switches. None stands twice, and of one minus sign at
most, those behind it, at least one, are turned off. -/
def isRun (signs : Text) : Bool :=
  signs.all (fun c => c == '-' || letters.contains c) && decide signs.Nodup &&
    signs.getLast? != some '-'

/-- Turn one switch. -/
def turn (on : Bool) (w : Switches) (letter : Char) : Switches :=
  if letter = 'i' then { w with anyCase := on }
  else if letter = 'x' then { w with spaced := on }
  else if letter = 'u' then { w with unicode := on }
  else w

/-- Turn the switches of a run. -/
def apply (w : Switches) (signs : Text) : Switches :=
  ((signs.dropWhile (· != '-')).foldl (turn false)
    ((signs.takeWhile (· != '-')).foldl (turn true) w))

end Switches

/-- The text without the blanks and comments in front. A comment starts at a
number sign and ends with its line. -/
def skipSpace (comment : Bool) : Text → Text
  | [] => []
  | c :: rest =>
      if comment then skipSpace (c != '\n') rest
      else if Text.isBlank c then skipSpace false rest
      else if c = '#' then skipSpace true rest
      else c :: rest

/-- The text from the next sign on. -/
def skip (w : Switches) (s : Text) : Text := if w.spaced then skipSpace false s else s

end DeskCalc.Pattern
