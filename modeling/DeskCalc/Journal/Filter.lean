import DeskCalc.Journal.Directive
import DeskCalc.Text.Split

/-!
# Journal filters

A filter is a list of directives separated by commas. Of the directives that fit
an event, the one with the longest target decides; of two with the same target
the one that asks for a field; of two that ask for the same the later one. An
event that no directive fits is not written.
-/

namespace DeskCalc

/-- A list of directives. -/
abbrev Filter := List Directive

namespace Filter

/-- What is written if nothing valid has been asked for. -/
def fallback : Filter := [⟨[], none, none, Level.info.detail⟩]

/-- What is written if an empty list has been asked for. -/
def bare : Filter := [⟨[], none, none, Level.error.detail⟩]

/-- The filter that a text gives; empty directives do not count. -/
def read? (s : Text) : Option Filter := do
  let directives ← ((Text.splitOn ',' s).filter (!·.isEmpty)).mapM Directive.read?
  some (if directives.isEmpty then bare else directives)

/-- The filter asked for, if it has been asked for in a valid form. -/
def ofRequest : Option Text → Filter
  | some s => (read? s).getD fallback
  | none => fallback

/-- The directive that decides about an event. -/
def deciding (f : Filter) (e : Event) : Option Directive :=
  (f.filter (·.fits e)).foldl Directive.stronger none

/-- The event is written. -/
def admits (f : Filter) (e : Event) : Bool :=
  match f.deciding e with
  | some d => e.level.detail ≤ d.detail
  | none => false

/-- The lines written for a run of events. -/
def lines (f : Filter) (events : List Event) : List String :=
  (events.filter f.admits).map Event.line

end Filter

end DeskCalc
