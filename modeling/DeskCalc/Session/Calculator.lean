import DeskCalc.Expr.Display
import DeskCalc.Session.History

/-!
# The calculator

The calculator holds the entry being typed, the readout below it and the
history. A readout is *final* while the value it shows is that of the entry
beside it: the next key then goes on from the value, if the key is an operator,
or starts a new entry.

An evaluation that succeeds makes the readout final and records one entry of
the history. One that fails leaves the entry to be corrected. A blank entry is
not evaluated.
-/

namespace DeskCalc

/-- What stands below the entry. -/
inductive Readout where
  /-- Nothing. -/
  | blank
  /-- The last evaluation failed. -/
  | failure
  /-- A displayed value; `final` while it is the value of the entry. -/
  | value (text : Text) (final : Bool)
deriving DecidableEq, Repr

namespace Readout

/-- What a failed evaluation shows. -/
def failureMark : Text := "Error".toList

/-- The text shown. -/
def text : Readout → Text
  | .blank => []
  | .failure => failureMark
  | .value text _ => text

/-- The value shown is that of the entry. -/
def isFinal : Readout → Bool
  | .value _ final => final
  | _ => false

/-- The entry has changed, so what is shown no longer belongs to it. -/
def detach : Readout → Readout
  | .value text _ => .value text false
  | other => other

@[simp] theorem isFinal_detach (r : Readout) : r.detach.isFinal = false := by
  cases r <;> rfl

@[simp] theorem text_detach (r : Readout) : r.detach.text = r.text := by
  cases r <;> rfl

end Readout

/-- The computing part of the program. -/
structure Calculator where
  entry : Text
  readout : Readout
  history : History
  /-- The decimal places shown of a result. -/
  places : Nat
deriving DecidableEq, Repr

namespace Calculator

/-- Nothing typed, nothing recorded. -/
def start (places : Nat) : Calculator := ⟨[], .blank, .empty, places⟩

/-- The keys that go on from a final value. -/
def continuations : List Text := [['+'], ['-'], ['×'], ['÷'], ['^']]

/-- The ends of an entry that are deleted as one symbol. The first that fits is
taken. -/
def symbols : List Text :=
  [['s', 'q', 'r', 't', '('], ['s', 'i', 'n', '('], ['c', 'o', 's', '('],
   ['t', 'a', 'n', '('], ['l', 'o', 'g', '('], ['a', 'b', 's', '('],
   ['l', 'n', '('], ['p', 'i']]

/-- Put the text of a key at the end of the entry. After a final value an
operator goes on from the value shown and any other key starts afresh. -/
def press (c : Calculator) (key : Text) : Calculator :=
  match c.readout with
  | .value shown true =>
      { c with
        entry := if continuations.contains key then shown ++ key else key
        readout := .blank }
  | _ => { c with entry := c.entry ++ key }

/-- Empty the entry and the readout. -/
def clear (c : Calculator) : Calculator := { c with entry := [], readout := .blank }

/-- The entry without the spaces at its end. -/
def trimSpaces (s : Text) : Text := (s.reverse.dropWhile (· == ' ')).reverse

/-- The entry without its last symbol. -/
def dropSymbol (s : Text) : Text :=
  match symbols.find? fun symbol => symbol.isSuffixOf s with
  | some symbol => s.take (s.length - symbol.length)
  | none => s.dropLast

/-- Delete the last symbol; after a final value, everything. -/
def delete (c : Calculator) : Calculator :=
  if c.readout.isFinal then c.clear
  else { c with entry := dropSymbol (trimSpaces c.entry) }

/-- Put another text in place of the entry, as by typing. -/
def edit (c : Calculator) (text : Text) : Calculator :=
  { c with entry := text, readout := c.readout.detach }

/-- The entry holds nothing to evaluate. -/
def isBlank (c : Calculator) : Bool := c.entry.trim.isEmpty

/-- Evaluate the entry, blanks around it left out. -/
def evaluate (c : Calculator) : Calculator :=
  let expression := c.entry.trim
  if expression.isEmpty then c
  else
    match Display.evaluate expression c.places with
    | .ok shown =>
        { c with
          readout := .value shown true
          history := c.history.record expression shown }
    | .error _ => { c with readout := .failure }

/-- Take the result of a recorded entry as the new entry. -/
def reuse (c : Calculator) (number : Nat) : Calculator :=
  match c.history.find? number with
  | some recorded => { c with entry := recorded.result, readout := .blank }
  | none => c

/-- Forget the recorded entries. -/
def clearHistory (c : Calculator) : Calculator := { c with history := c.history.clear }

theorem evaluate_of_isBlank {c : Calculator} (h : c.isBlank = true) : c.evaluate = c := by
  unfold isBlank at h
  simp [evaluate, h]

/-- An edited entry has no final value. -/
@[simp] theorem isFinal_edit (c : Calculator) (text : Text) :
    (c.edit text).readout.isFinal = false := by
  simp [edit]

/-- A pressed key leaves no final value. -/
@[simp] theorem isFinal_press (c : Calculator) (key : Text) :
    (c.press key).readout.isFinal = false := by
  rcases c with ⟨entry, readout, history, places⟩
  cases readout with
  | blank => rfl
  | failure => rfl
  | value shown final => cases final <;> rfl

end Calculator

end DeskCalc
