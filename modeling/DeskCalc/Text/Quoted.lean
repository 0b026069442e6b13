import DeskCalc.Text.Blank
import DeskCalc.Text.Combining
import DeskCalc.Text.Ignorable
import DeskCalc.Text.Unprintable

/-!
# Quoted texts

A quoted text stands between double quotes. Quotes and backslashes in it have a
backslash in front, so the closing quote is the only bare one. Characters that
do not show by themselves, such as a line feed, a no-break space, a combining
accent or a filler, are written by a letter or by their code.
-/

namespace DeskCalc.Quoted

/-- The character does not show by itself. -/
def isUnseen (c : Char) : Bool :=
  Text.isUnprintable c || Text.isCombining c || Text.isIgnorable c

/-- A character by the hexadecimal digits of its code. -/
def byCode (c : Char) : Text :=
  ['\\', 'u', '\x7b'] ++ Nat.toDigits 16 c.toNat ++ ['\x7d']

/-- A character as it stands between quotes. -/
def escape (c : Char) : Text :=
  if c = '"' ∨ c = '\\' then ['\\', c]
  else if c = '\n' then ['\\', 'n']
  else if c = '\r' then ['\\', 'r']
  else if c = '\t' then ['\\', 't']
  else if c = '\x00' then ['\\', '0']
  else if isUnseen c then byCode c
  else [c]

/-- A text between quotes. -/
def write (s : Text) : Text := '"' :: s.flatMap escape ++ ['"']

end DeskCalc.Quoted
