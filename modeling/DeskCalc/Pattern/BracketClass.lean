import DeskCalc.Pattern.Symbol

/-!
# Classes in brackets

A class is a set of characters: `[a-z_]` those listed, `[^a-z]` all others. Its
items are characters, ranges, families, named classes such as `[:digit:]` and
further classes in brackets, and `&&`, `--` and `~~` combine what stands on
their two sides. In a class of bytes nothing beyond ASCII can be an item, and
the class cannot be negated.

`readClass?` takes a class off a text. It gives the depth of the class, which
counts towards the limit for a whole pattern.
-/

namespace DeskCalc.Pattern

/-- The depth of parts that stand side by side. A single part needs no list. -/
def listDepth : List Nat → Nat
  | [] => 0
  | [depth] => depth
  | depths => depths.foldl max 0 + 1

/-- How much of a class has been read. -/
inductive Progress where
  /-- The bracket. -/
  | bracket
  /-- The bracket and the sign of negation. -/
  | negation
  /-- These and one or more minus signs, which stand for themselves. -/
  | dashes
  /-- More than that. -/
  | items
deriving DecidableEq, Repr

/-- A class that is being read. -/
structure OpenClass where
  progress : Progress
  /-- The depth of what the last combining sign has on its left. -/
  left : Option Nat
  /-- The depths of the items since then. -/
  items : List Nat
deriving DecidableEq, Repr

namespace OpenClass

/-- A class of which only the bracket has been read. -/
def start : OpenClass := ⟨.bracket, none, []⟩

/-- The depth of all that has been read. -/
def depth (k : OpenClass) : Nat :=
  match k.left with
  | none => listDepth k.items
  | some left => max left (listDepth k.items) + 1

/-- One more item. -/
def add (k : OpenClass) (progress : Progress) (itemDepth : Nat) : OpenClass :=
  ⟨progress, k.left, itemDepth :: k.items⟩

/-- All that has been read is the left side of a combining sign. -/
def combine (k : OpenClass) : OpenClass := ⟨.items, some k.depth, []⟩

end OpenClass

/-- The names of the named classes. -/
def classNames : List Text :=
  ["alnum".toList, "alpha".toList, "ascii".toList, "blank".toList, "cntrl".toList,
   "digit".toList, "graph".toList, "lower".toList, "print".toList, "punct".toList,
   "space".toList, "upper".toList, "word".toList, "xdigit".toList]

/-- The named class whose bracket stands in front of `s`: whether it is negated,
and what is left. -/
def readNamed? (s : Text) : Option (Bool × Text) :=
  match s with
  | ':' :: rest =>
      let negated := rest.head? == some '^'
      let name := if negated then rest.tail else rest
      match name.dropWhile (· != ':') with
      | ':' :: ']' :: after =>
          if classNames.contains (name.takeWhile (· != ':')) then some (negated, after) else none
      | _ => none
  | _ => none

/-- The next sign, for deciding whether a minus sign makes a range. Of a comment
only the number sign is passed over. -/
def peek (w : Switches) (s : Text) : Option Char :=
  if w.spaced then
    match Text.trimFront s with
    | '#' :: rest => (Text.trimFront rest).head?
    | rest => rest.head?
  else s.head?

/-- The item in front of a text, a symbol or a range of symbols, and what is left. -/
def readItem? (w : Switches) (s : Text) : Option Text := do
  let (symbol, rest) ← readSymbol? w s
  match skip w rest with
  | '-' :: after =>
      if peek w after = some ']' ∨ peek w after = some '-' then
        if symbol.isItem w then some ('-' :: after) else none
      else do
        let (last, rest) ← readSymbol? w (skip w after)
        if symbol.isRange w last then some rest else none
  | rest => if symbol.isItem w then some rest else none

/-- A character that stands for itself can be an item. -/
def admitsSelf (w : Switches) (c : Char) : Bool := (Symbol.literal c false).isItem w

/-- Two signs that combine classes. -/
def combines (c d : Char) : Bool := c == d && (c == '&' || c == '-' || c == '~')

/-- A class that stands in others, and what is left; or, after the last bracket,
the depth of the class, and what is left. -/
abbrev ClassStep := Sum (OpenClass × List OpenClass) Nat × Text

/-- Read on in the innermost class `k` at its next sign. -/
def classStep? (w : Switches) (k : OpenClass) (outer : List OpenClass) (s : Text) :
    Option ClassStep :=
  match s with
  | [] => none
  | c :: rest =>
      if c = '^' ∧ k.progress = .bracket then
        if w.unicode then some (.inl (⟨.negation, k.left, k.items⟩, outer), rest) else none
      else if c = '-' ∧ k.progress ≠ .items then
        if admitsSelf w c then some (.inl (k.add .dashes 0, outer), rest) else none
      else if c = ']' ∧ (k.progress = .bracket ∨ k.progress = .negation) then
        if admitsSelf w c then some (.inl (k.add .items 0, outer), rest) else none
      else if c = ']' then
        match outer with
        | [] => some (.inr (k.depth + 1), rest)
        | parent :: outer => some (.inl (parent.add .items (k.depth + 1), outer), rest)
      else if c = '[' then
        match readNamed? rest with
        | some (negated, rest) =>
            if if w.unicode then !w.anyCase else !negated then
              some (.inl (k.add .items 0, outer), rest)
            else none
        | none => some (.inl (.start, k :: outer), rest)
      else if rest.head?.any (combines c) then some (.inl (k.combine, outer), rest.tail)
      else (readItem? w s).map fun rest => (.inl (k.add .items 0, outer), rest)

/-- Read classes to the last bracket; each step takes a character at least. -/
def runClass? (w : Switches) : Nat → OpenClass → List OpenClass → Text → Option (Nat × Text)
  | 0, _, _, _ => none
  | steps + 1, k, outer, s =>
      match classStep? w k outer (skip w s) with
      | none => none
      | some (.inr depth, rest) => some (depth, rest)
      | some (.inl (k, outer), rest) => runClass? w steps k outer rest

/-- The depth of the class whose bracket stands in front of `s`, and what is left. -/
def readClass? (w : Switches) (s : Text) : Option (Nat × Text) :=
  runClass? w (s.length + 1) .start [] s

end DeskCalc.Pattern
