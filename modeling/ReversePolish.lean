import ReversePolish.Text.Blank
import ReversePolish.Text.Charset
import ReversePolish.Text.DecimalDigit
import ReversePolish.Text.Lines
import ReversePolish.Text.Percent
import ReversePolish.Text.Printable
import ReversePolish.Text.Quoted
import ReversePolish.Text.UpperCase
import ReversePolish.Number.Binary64
import ReversePolish.Number.Integer
import ReversePolish.Number.Numeral
import ReversePolish.Number.Shortest
import ReversePolish.Number.Display
import ReversePolish.Token
import ReversePolish.Token.Lexeme
import ReversePolish.Token.Check
import ReversePolish.Fault
import ReversePolish.Scan
import ReversePolish.Cursor
import ReversePolish.Conversion
import ReversePolish.Evaluation
import ReversePolish.Tree
import ReversePolish.Grammar
import ReversePolish.Calculation
import ReversePolish.Batch
import ReversePolish.Datum
import ReversePolish.Boundary
import ReversePolish.Assignment
import ReversePolish.Settings
import ReversePolish.Journal
import ReversePolish.Address
import ReversePolish.Service
import ReversePolish.Command.Options
import ReversePolish.Command.Invocation
import ReversePolish.Command.Run
import ReversePolish.Command.Console
import ReversePolish.Main
import ReversePolish.Proofs.WrittenNumeral
import ReversePolish.Proofs.Pending
import ReversePolish.Proofs.Sentence
import ReversePolish.Proofs.Acceptance
import ReversePolish.Proofs.Scanning
import ReversePolish.Proofs.Expression
import ReversePolish.Proofs.Recognition
import ReversePolish.Proofs.EmissionOrder
import ReversePolish.Proofs.Grouping
import ReversePolish.Proofs.Nesting
import ReversePolish.Proofs.PostOrder
import ReversePolish.Proofs.Decomposition
import ReversePolish.Proofs.Resumption
import ReversePolish.Proofs.Layout
import ReversePolish.Proofs.Answering
import ReversePolish.Proofs.Invoking
import ReversePolish.Proofs.Strictness
import ReversePolish.Proofs.Marks
import ReversePolish.Proofs.Agreement
import ReversePolish.Proofs.Handover
import ReversePolish.Proofs.Pointwise
import ReversePolish.Proofs.StandIn
import ReversePolish.Proofs.Displacement
import ReversePolish.Proofs.Continuation
import ReversePolish.Proofs.Rereading
import ReversePolish.Proofs.Obstacles
import ReversePolish.Proofs.StepTrace
import ReversePolish.Proofs.Rounding
import ReversePolish.Proofs.WrittenDecimal
import ReversePolish.Proofs.BatchAnswers
import ReversePolish.Proofs.SignOfZero
import ReversePolish.Proofs.TrueSteps
import ReversePolish.Proofs.Concatenation
import ReversePolish.Proofs.Refusals
import ReversePolish.Proofs.LexemeRule
import ReversePolish.Proofs.ExactValue
import ReversePolish.Proofs.PositionalForm
import ReversePolish.Proofs.PlainExpression
import ReversePolish.Proofs.Histories
import ReversePolish.Proofs.Waiting
import ReversePolish.Proofs.SpelledLines
import ReversePolish.Proofs.Channels
