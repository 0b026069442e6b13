import DeskCalc.Convert.Amount
import DeskCalc.Convert.Converter
import DeskCalc.Convert.MeasureUnit
import DeskCalc.Expr.Display
import DeskCalc.Expr.Error
import DeskCalc.Expr.Evaluation
import DeskCalc.Expr.Lexeme
import DeskCalc.Expr.Ordering
import DeskCalc.Expr.Token
import DeskCalc.Journal.Directive
import DeskCalc.Journal.Event
import DeskCalc.Journal.Filter
import DeskCalc.Numeric.Arithmetic
import DeskCalc.Numeric.Binary64
import DeskCalc.Numeric.Decimal
import DeskCalc.Numeric.Elementary
import DeskCalc.Numeric.Numeral
import DeskCalc.Numeric.Shortest
import DeskCalc.Pattern
import DeskCalc.Pattern.BracketClass
import DeskCalc.Pattern.Switches
import DeskCalc.Pattern.Symbol
import DeskCalc.Program
import DeskCalc.Proofs.Convert.AmountText
import DeskCalc.Proofs.Expr.Balance
import DeskCalc.Proofs.Expr.Compound
import DeskCalc.Proofs.Expr.Evaluation
import DeskCalc.Proofs.Expr.ExactDisplay
import DeskCalc.Proofs.Expr.FirstLexeme
import DeskCalc.Proofs.Expr.Grammar
import DeskCalc.Proofs.Expr.LeftOperand
import DeskCalc.Proofs.Expr.Ordering
import DeskCalc.Proofs.Expr.ReadBack
import DeskCalc.Proofs.Expr.Recognition
import DeskCalc.Proofs.Expr.Redisplay
import DeskCalc.Proofs.Expr.Refusal
import DeskCalc.Proofs.Expr.Scanning
import DeskCalc.Proofs.Expr.Seam
import DeskCalc.Proofs.Expr.Tree
import DeskCalc.Proofs.Expr.Vocabulary
import DeskCalc.Proofs.Numeric.Distance
import DeskCalc.Proofs.Numeric.Exact
import DeskCalc.Proofs.Numeric.FifteenDigits
import DeskCalc.Proofs.Numeric.Largest
import DeskCalc.Proofs.Numeric.Midpoint
import DeskCalc.Proofs.Numeric.Nearest
import DeskCalc.Proofs.Numeric.Numeral
import DeskCalc.Proofs.Numeric.NumeralValue
import DeskCalc.Proofs.Numeric.Rounding
import DeskCalc.Proofs.Numeric.Shortest
import DeskCalc.Proofs.Numeric.Spacing
import DeskCalc.Proofs.Numeric.Stability
import DeskCalc.Proofs.Numeric.Trimmed
import DeskCalc.Proofs.Session.Clicking
import DeskCalc.Proofs.Session.Continuation
import DeskCalc.Proofs.Session.Conversion
import DeskCalc.Proofs.Session.FinalValue
import DeskCalc.Proofs.Session.Gesture
import DeskCalc.Proofs.Session.KeyGap
import DeskCalc.Proofs.Session.KeyText
import DeskCalc.Proofs.Session.Listing
import DeskCalc.Proofs.Session.Recording
import DeskCalc.Proofs.Session.Reuse
import DeskCalc.Proofs.Session.Run
import DeskCalc.Proofs.Session.Step
import DeskCalc.Proofs.Session.Tabs
import DeskCalc.Session.App
import DeskCalc.Session.Calculator
import DeskCalc.Session.History
import DeskCalc.Session.Key
import DeskCalc.Session.Screen
import DeskCalc.Settings
import DeskCalc.Settings.Document
import DeskCalc.Text.Alphabetic
import DeskCalc.Text.Alphanumeric
import DeskCalc.Text.Blank
import DeskCalc.Text.Bytes
import DeskCalc.Text.CodeRanges
import DeskCalc.Text.Combining
import DeskCalc.Text.Digits
import DeskCalc.Text.Ignorable
import DeskCalc.Text.NumberSign
import DeskCalc.Text.Quoted
import DeskCalc.Text.Split
import DeskCalc.Text.Unprintable
import DeskCalc.Proofs.Expr.CoarseDisplay
import DeskCalc.Proofs.Expr.DisplayForm
import DeskCalc.Proofs.Journal.Evaluation
import DeskCalc.Proofs.Settings.Grammar
import DeskCalc.Proofs.Settings.Scalar
import DeskCalc.Proofs.Settings.Key
import DeskCalc.Proofs.Settings.Lines
import DeskCalc.Proofs.Settings.Reading
import DeskCalc.Proofs.Expr.DisplayOrder
import DeskCalc.Proofs.Expr.TokenLog
import DeskCalc.Proofs.Expr.Verdict
import DeskCalc.Proofs.Session.Deleting
import DeskCalc.Proofs.Expr.Blanks
import DeskCalc.Proofs.Expr.Spelling
import DeskCalc.Proofs.Convert.ConversionOrder
import DeskCalc.Proofs.Session.Places
import DeskCalc.Proofs.Settings.Layout
import DeskCalc.Proofs.Expr.WaitingOrder
import DeskCalc.Proofs.Session.Appearance
import DeskCalc.Proofs.Expr.DecimalWriting
