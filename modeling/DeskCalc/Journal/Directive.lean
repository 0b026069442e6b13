import DeskCalc.Convert.Amount
import DeskCalc.Journal.Event
import DeskCalc.Pattern
import DeskCalc.Text.Alphanumeric
import DeskCalc.Text.Bytes

/-!
# Directives of a journal filter

A directive gives the greatest detail written for some events. Its full form is
`TARGET[SPAN{FIELD=VALUE}]=LEVEL`, of which most parts can be left out:

* `LEVEL` is for every event, `TARGET=LEVEL` for those whose target starts with
  `TARGET`; without a level every detail is written;
* `[{FIELD}]` restricts a directive to the events that carry the field;
* `SPAN` and `VALUE` restrict it to what happens while a span of this name, or
  with this value in a field, is open. The program opens no spans, so no event
  fits such a directive.

The signs of a directive are looked for without the blanks around it, and its
parts are then cut at the same places, counted in bytes, from the text with the
blanks. Blanks in front therefore shift what the parts are.
-/

namespace DeskCalc

/-- A restriction to events with a certain field. -/
structure FieldRule where
  name : Text
  /-- The value asked for, if any. -/
  value : Option Text
deriving DecidableEq, Repr

/-- One rule of a filter. -/
structure Directive where
  /-- The directive fits only targets that start with this. -/
  target : Text
  /-- The span asked for, if any. -/
  span : Option Text
  /-- The field asked for, if any. -/
  field : Option FieldRule
  /-- The greatest detail written, `0` for none. -/
  detail : Nat
deriving DecidableEq, Repr

namespace FieldRule

/-- A number in decimal writing, or the name of one that is not finite. -/
def isNumber (s : Text) : Bool :=
  (Amount.read? s).isSome ||
    ["inf".toList, "infinity".toList, "nan".toList].contains
      ((Digits.splitSign s).2.map Char.toLower)

/-- A value asked for is a number or a pattern. -/
def isValue (s : Text) : Bool := isNumber s || Pattern.isValid s

/-- The rule that a text gives, `NAME` or `NAME=VALUE`. A second equals sign ends
the value. -/
def read? (s : Text) : Option FieldRule :=
  let name := s.takeWhile (· != '=')
  match s.dropWhile (· != '=') with
  | [] => if name.isEmpty then none else some ⟨name, none⟩
  | _ :: rest =>
      let value := rest.takeWhile (· != '=')
      if isValue value then some ⟨name, some value⟩ else none

/-- The event carries the field. -/
def fits (r : FieldRule) (e : Event) : Bool :=
  r.value.isNone && e.fieldNames.any fun name => name.toList == r.name

end FieldRule

namespace Directive

/-- The details that have a name. -/
def names : List (Text × Nat) :=
  [("off".toList, 0), ("error".toList, 1), ("warn".toList, 2), ("info".toList, 3),
   ("debug".toList, 4), ("trace".toList, 5)]

/-- The greatest detail there is. -/
def full : Nat := 5

/-- The detail that a text gives, by name in any case or by number. -/
def detail? (s : Text) : Option Nat :=
  match names.lookup (s.map Char.toLower) with
  | some detail => some detail
  | none =>
      match Digits.read? (if s.head? = some '+' then s.tail else s) with
      | some n => if n ≤ full then some n else none
      | none => none

/-- The characters that a target or a level may begin with. -/
def mayBegin (c : Char) : Bool :=
  Text.isAlphanumeric c || c == '-' || c == ':' || c == '_'

/-- A directive without a level. -/
def detailed (target : Text) (span : Option Text) (field : Option FieldRule) : Directive :=
  ⟨target, span, field, full⟩

/-- The directive with the level that `piece` gives from `place` to its end. -/
def withLevel? (piece : Text) (place : Nat) (d : Directive) : Option Directive := do
  let level ← Text.fromByte? place piece
  let detail ← if level.isEmpty then some full else detail? level
  some { d with detail }

/-- The directive of `piece` when the bracket of its span has been closed and
`rest` follows at `place`. -/
def afterSpan? (piece : Text) (place : Nat) (d : Directive) (rest : Text) : Option Directive :=
  match rest with
  | [] => some d
  | '=' :: _ => withLevel? piece (place + 1) d
  | _ => none

/-- The directive of `piece` when the bracket of its span has been opened and
`rest` follows at `place`. -/
def spanned? (piece : Text) (place : Nat) (target rest : Text) : Option Directive := do
  let ends := fun c : Char => c == ']' || c == '\x7b'
  let spanEnd := place + Text.byteSize (rest.takeWhile (!ends ·))
  let span ← Text.between? place spanEnd piece
  match rest.dropWhile (!ends ·) with
  | ']' :: after => afterSpan? piece (spanEnd + 1) (detailed target (some span) none) after
  | '\x7b' :: rules =>
      let ruleEnd := spanEnd + 1 + Text.byteSize (rules.takeWhile (· != '\x7d'))
      let field ← FieldRule.read? (← Text.between? (spanEnd + 1) ruleEnd piece)
      match rules.dropWhile (· != '\x7d') with
      | '\x7d' :: ']' :: after =>
          afterSpan? piece (ruleEnd + 2)
            (detailed target (if span.isEmpty then none else some span) (some field)) after
      | _ => none
  | _ => none

/-- The directive that a text without commas gives. -/
def read? (piece : Text) : Option Directive :=
  match Text.trim piece with
  | [] => none
  | '[' :: rest => spanned? piece 1 [] rest
  | c :: rest =>
      if mayBegin c then
        let ends := fun c : Char => c == '=' || c == '['
        let nameEnd := Text.byteSize ((c :: rest).takeWhile (!ends ·))
        match (c :: rest).dropWhile (!ends ·) with
        | [] =>
            match detail? piece with
            | some detail => some ⟨[], none, none, detail⟩
            | none => some (detailed piece none none)
        | sign :: after => do
            let target ← Text.between? 0 nameEnd piece
            if sign = '=' then withLevel? piece (nameEnd + 1) (detailed target none none)
            else spanned? piece (nameEnd + 1) target after
      else none

/-- The directive says something about an event. -/
def fits (d : Directive) (e : Event) : Bool :=
  d.span.isNone && d.target.isPrefixOf e.target.toList && d.field.all (·.fits e)

/-- A restriction to a field gives way to another: having none to any, and one
name to the same or a later one in the order of texts. -/
def fieldYields : Option FieldRule → Option FieldRule → Bool
  | none, _ => true
  | some _, none => false
  | some r, some s => !s.name.lex r.name fun c d => c.toNat < d.toNat

/-- A directive gives way to a later one that fits the same event. -/
def yields (earlier d : Directive) : Bool :=
  earlier.target.length < d.target.length ||
    (earlier.target.length == d.target.length && fieldYields earlier.field d.field)

/-- Of a directive that fits and one that comes later, the one that decides. -/
def stronger (earlier : Option Directive) (d : Directive) : Option Directive :=
  match earlier with
  | some e => if e.yields d then some d else some e
  | none => some d

end Directive

end DeskCalc
