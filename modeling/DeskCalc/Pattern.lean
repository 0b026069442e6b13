import DeskCalc.Pattern.BracketClass
import DeskCalc.Text.Alphanumeric

/-!
# Patterns

A pattern is a regular expression: symbols and classes, the point, the anchors
`^` and `$`, groups in parentheses, alternatives between bars and the
repetitions `*`, `+` and `?`. Only its form is of interest here: `isValid` holds
if the pattern can be matched at all. A repetition with a count in braces is not
offered, since what holds a pattern ends at a brace.

A pattern is read from left to right. Switches hold to the end of the group that
turns them, over all alternatives that are still to come.
-/

namespace DeskCalc.Pattern

/-- A part of a pattern. -/
structure Part where
  depth : Nat
  /-- The part can be repeated. -/
  repeatable : Bool
deriving DecidableEq, Repr

/-- A group that is being read, or the pattern outside of all groups. -/
structure OpenGroup where
  switches : Switches
  /-- The depths of the alternatives that are complete. -/
  alternatives : List Nat
  /-- The parts of the alternative that is not, the last first. -/
  parts : List Part
deriving DecidableEq, Repr

namespace OpenGroup

/-- A group of which nothing has been read. -/
def start (w : Switches) : OpenGroup := ⟨w, [], []⟩

/-- One more part. -/
def add (g : OpenGroup) (p : Part) : OpenGroup := ⟨g.switches, g.alternatives, p :: g.parts⟩

/-- The depth of the alternative that is not complete. -/
def alternativeDepth (g : OpenGroup) : Nat := listDepth (g.parts.map Part.depth)

/-- The depth of all that has been read. -/
def depth (g : OpenGroup) : Nat := listDepth (g.alternativeDepth :: g.alternatives)

/-- The alternative is complete, and another one follows. -/
def next (g : OpenGroup) : OpenGroup := ⟨g.switches, g.alternativeDepth :: g.alternatives, []⟩

/-- The last part is repeated. -/
def repeatLast? (g : OpenGroup) : Option OpenGroup :=
  match g.parts with
  | [] => none
  | p :: parts =>
      if p.repeatable then some ⟨g.switches, g.alternatives, ⟨p.depth + 1, true⟩ :: parts⟩
      else none

end OpenGroup

/-- A pattern that is being read. -/
structure Reading where
  group : OpenGroup
  /-- The groups that this one stands in, the innermost first. -/
  outer : List OpenGroup
  /-- The names that groups have been given. -/
  names : List Text
deriving DecidableEq, Repr

namespace Reading

/-- A pattern of which nothing has been read. -/
def start : Reading := ⟨.start .start, [], []⟩

/-- The characters of a name: a letter or an underscore, then numbers, points and
brackets as well. -/
def isName (name : Text) : Bool :=
  match name with
  | [] => false
  | c :: rest =>
      (Text.isAlphabetic c || c == '_') &&
        rest.all fun d => Text.isAlphanumeric d || "_.[]".toList.contains d

/-- One more part that can be repeated. -/
def add (r : Reading) (depth : Nat) : Reading := { r with group := r.group.add ⟨depth, true⟩ }

/-- A part that `holds` allows. -/
def addIf (r : Reading) (holds : Bool) (rest : Text) : Option (Reading × Text) :=
  if holds then some (r.add 0, rest) else none

/-- A group opens that is read with the switches `w`. -/
def enter (r : Reading) (w : Switches) : Reading :=
  { r with group := .start w, outer := r.group :: r.outer }

/-- A group opens whose name stands in front of `s`. -/
def enterNamed? (r : Reading) (s : Text) : Option (Reading × Text) :=
  let name := s.takeWhile (· != '>')
  match s.dropWhile (· != '>') with
  | _ :: rest =>
      if isName name ∧ name ∉ r.names then
        some ({ r.enter r.group.switches with names := name :: r.names }, rest)
      else none
  | [] => none

/-- Switches stand in front of `s`, for a group that they open or, if a closing
parenthesis follows, for the rest of the group that they stand in. -/
def switch? (r : Reading) (s : Text) : Option (Reading × Text) :=
  let ends := fun c : Char => c == ':' || c == ')'
  let signs := s.takeWhile (!ends ·)
  let switches := r.group.switches.apply signs
  if Switches.isRun signs then
    match s.dropWhile (!ends ·) with
    | ':' :: rest => some (r.enter switches, rest)
    | ')' :: rest =>
        if signs.isEmpty then none
        else some ({ r with group := { r.group.add ⟨0, false⟩ with switches } }, rest)
    | _ => none
  else none

/-- An opening parenthesis stands in front of `s`. -/
def open? (r : Reading) (s : Text) : Option (Reading × Text) :=
  match skip r.group.switches s with
  | '?' :: '<' :: rest => r.enterNamed? rest
  | '?' :: 'P' :: '<' :: rest => r.enterNamed? rest
  | '?' :: rest => r.switch? rest
  | rest => some (r.enter r.group.switches, rest)

/-- The innermost group is closed and becomes a part of the one it stands in. -/
def close? (r : Reading) : Option Reading :=
  match r.outer with
  | [] => none
  | parent :: outer => some ⟨parent.add ⟨r.group.depth + 1, true⟩, outer, r.names⟩

/-- The last part is repeated; a question mark behind it makes it lazy. -/
def repeat? (r : Reading) (s : Text) : Option (Reading × Text) := do
  let group ← r.group.repeatLast?
  some ({ r with group }, if s.head? = some '?' then s.tail else s)

/-- Read on at the next sign. -/
def step? (r : Reading) (s : Text) : Option (Reading × Text) :=
  let w := r.group.switches
  match s with
  | [] => none
  | '(' :: rest => r.open? rest
  | ')' :: rest => r.close?.map fun r => (r, rest)
  | '|' :: rest => some ({ r with group := r.group.next }, rest)
  | '[' :: rest => (readClass? w rest).map fun (depth, rest) => (r.add depth, rest)
  | '*' :: rest => r.repeat? rest
  | '+' :: rest => r.repeat? rest
  | '?' :: rest => r.repeat? rest
  | '\x7b' :: _ => none
  | '.' :: rest => r.addIf w.unicode rest
  | '^' :: rest => r.addIf true rest
  | '$' :: rest => r.addIf true rest
  | s => do
      let (symbol, rest) ← readSymbol? w s
      r.addIf (symbol.isMatchable w) rest

/-- Read to the end; each step takes a character at least. -/
def run? : Nat → Reading → Text → Option Reading
  | 0, _, _ => none
  | steps + 1, r, s =>
      match skip r.group.switches s with
      | [] => some r
      | s => do
          let (r, rest) ← r.step? s
          run? steps r rest

end Reading

/-- The greatest depth of a pattern. -/
def greatestDepth : Nat := 250

/-- The text is a pattern that can be matched. -/
def isValid (s : Text) : Bool :=
  match Reading.start.run? (s.length + 1) s with
  | some r => r.outer.isEmpty && r.group.depth ≤ greatestDepth
  | none => false

end DeskCalc.Pattern
