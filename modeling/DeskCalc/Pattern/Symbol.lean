import DeskCalc.Pattern.Switches

/-!
# Symbols of a pattern

A symbol stands for a character, for a family of characters or for a place in
the text that is searched. Most characters stand for themselves; a backslash
makes a character stand for something else, or for itself if it has a meaning.

Matching characters without regard to case, and the families of digits, blanks
and word characters beyond ASCII, would need tables that a pattern has no
access to; so would the bounds of words. A symbol that needs a table is refused.
-/

namespace DeskCalc.Pattern

/-- What a symbol stands for. -/
inductive Symbol where
  /-- A character, written by two hexadecimal digits or in another way. -/
  | literal (c : Char) (twoDigits : Bool)
  /-- Digits, blanks or word characters, or all others. -/
  | family (negated : Bool)
  /-- The start or the end of the text. -/
  | anchor
  /-- A place with regard to the bounds of words. -/
  | wordBound
deriving DecidableEq, Repr

/-- The value of a hexadecimal digit. -/
def hexValue? (c : Char) : Option Nat :=
  if c.isDigit then some (c.toNat - '0'.toNat)
  else if 'a' ≤ c ∧ c ≤ 'f' then some (c.toNat - 'a'.toNat + 10)
  else if 'A' ≤ c ∧ c ≤ 'F' then some (c.toNat - 'A'.toNat + 10)
  else none

/-- The number of a fixed count of hexadecimal digits that follow `value`, and
what is left. -/
def readHex? (w : Switches) : Nat → Nat → Text → Option (Nat × Text)
  | 0, value, s => some (value, s)
  | count + 1, value, s =>
      match skip w s with
      | [] => none
      | c :: rest => do
          let digit ← hexValue? c
          readHex? w count (16 * value + digit) rest

/-- The character whose code is written with a fixed count of digits. -/
def readCode? (w : Switches) (count : Nat) (s : Text) : Option (Symbol × Text) := do
  let (code, rest) ← readHex? w count 0 s
  if code.isValidChar then some (.literal (Char.ofNat code) (count == 2), rest) else none

/-- The symbol that a backslash in front of `s` begins. -/
def readEscape? (w : Switches) (s : Text) : Option (Symbol × Text) :=
  match s with
  | [] => none
  | c :: rest =>
      let literal := fun d : Char => some (Symbol.literal d false, rest)
      match c with
      | 'x' => readCode? w 2 rest
      | 'u' => readCode? w 4 rest
      | 'U' => readCode? w 8 rest
      | 'd' | 's' | 'w' => some (.family false, rest)
      | 'D' | 'S' | 'W' => some (.family true, rest)
      | 'A' | 'z' => some (.anchor, rest)
      | 'b' | 'B' | '<' | '>' => some (.wordBound, rest)
      | 'a' => literal '\x07'
      | 'f' => literal '\x0c'
      | 'n' => literal '\n'
      | 'r' => literal '\r'
      | 't' => literal '\t'
      | 'v' => literal '\x0b'
      | _ => if c.isAlphanum || 0x80 ≤ c.toNat then none else literal c

/-- The symbol in front of a text, where every character but the backslash
stands for itself. -/
def readSymbol? (w : Switches) (s : Text) : Option (Symbol × Text) :=
  match s with
  | [] => none
  | '\\' :: rest => readEscape? w rest
  | c :: rest => some (.literal c false, rest)

namespace Symbol

/-- The symbol can be matched outside of classes. -/
def isMatchable (w : Switches) : Symbol → Bool
  | .literal c twoDigits =>
      if w.unicode then !w.anyCase else !twoDigits || c.toNat < 0x80
  | .family negated => !w.unicode && !negated
  | .anchor => true
  | .wordBound => !w.unicode

/-- The symbol can be an item of a class. -/
def isItem (w : Switches) : Symbol → Bool
  | .literal c _ => if w.unicode then !w.anyCase else c.toNat < 0x80
  | .family negated => !w.unicode && !negated
  | .anchor => false
  | .wordBound => false

/-- Two symbols are the ends of a range of characters. -/
def isRange (w : Switches) : Symbol → Symbol → Bool
  | .literal c b, .literal d b' =>
      c ≤ d && isItem w (.literal c b) && isItem w (.literal d b')
  | _, _ => false

end Symbol

end DeskCalc.Pattern
