import ReversePolish.Fault
import ReversePolish.Text.Quoted
import ReversePolish.Text.UpperCase

/-!
# Journal

Remarks that the program makes beside its output. Each has a severity, and those below the chosen
severity are left out.

## Main definitions

* `Journal.Severity`: the severities; `Journal.threshold?`: the rank of a chosen name.
* `Journal.Entry`, `Journal.Entry.line`: a remark and its line.
* `Journal.ofFault`: what is remarked when a fault is found.
* `Journal.written`, `Journal.writtenEarly`: the lines of the entries that are severe enough.
-/

namespace ReversePolish.Journal

/-- The severities of remarks that are made. -/
inductive Severity where
  | debug
  | info
  | warning
  deriving DecidableEq, Repr

namespace Severity

/-- The written name. -/
def name : Severity → String
  | .debug => "DEBUG"
  | .info => "INFO"
  | .warning => "WARNING"

/-- The rank: the greater, the more severe. -/
def rank : Severity → Nat
  | .debug => 10
  | .info => 20
  | .warning => 30

end Severity

/-- The names that can be chosen as the least severity, with their ranks. -/
def thresholds : List (String × Nat) :=
  [("CRITICAL", 50), ("FATAL", 50), ("ERROR", 40), ("WARN", 30), ("WARNING", 30), ("INFO", 20),
    ("DEBUG", 10), ("NOTSET", 0)]

/-- The least rank that a chosen name lets through, the name being written in any case. -/
def threshold? (name : String) : Option Nat :=
  thresholds.lookup (Text.upperCase name)

/-- What is said of a name that is not among the thresholds. -/
def unknownThreshold (name : String) : String :=
  "Unknown level: " ++ Text.quoted (Text.upperCase name)

/-- A remark. -/
structure Entry where
  /-- How severe it is. -/
  severity : Severity
  /-- The part of the program that makes it. -/
  channel : String
  /-- The remark itself. -/
  text : String
  deriving DecidableEq, Repr

/-- The line of a remark. -/
def Entry.line (entry : Entry) : String :=
  entry.severity.name ++ ":" ++ entry.channel ++ ":" ++ entry.text ++ "\n"

/-- The lines of the remarks of at least the given rank. -/
def written (rank : Nat) (entries : List Entry) : String :=
  String.join ((entries.filter fun entry => rank ≤ entry.severity.rank).map Entry.line)

/-- The remarks as they are written while no least severity is chosen: their texts alone, if they
are warnings. -/
def writtenEarly (entries : List Entry) : String :=
  String.join ((entries.filter fun entry => Severity.warning.rank ≤ entry.severity.rank).map
    fun entry => entry.text ++ "\n")

/-- The remark on a refused conversion. -/
def refusedConversion (fault : Fault) : Entry where
  severity := .debug
  channel := "infix_rpn.converter"
  text := "Konwersja odrzucona (" ++ fault.code.name ++ "): " ++ fault.message

/-- The remark on operands that are left at the end. -/
def leftOperands (count : Nat) : Entry where
  severity := .debug
  channel := "infix_rpn.evaluator"
  text := "Pozostało " ++ toString count ++ " operandów na stosie"

/-- The remark on a finished batch. -/
def finishedBatch (succeeded failed : Nat) : Entry where
  severity := .info
  channel := "infix_rpn.pipeline"
  text := "Batch: ok=" ++ toString succeeded ++ " ko=" ++ toString failed

/-- The remark on a statement of a file of assignments that cannot be read. -/
def unreadableStatement (line : Nat) : Entry where
  severity := .warning
  channel := "dotenv.main"
  text := "python-dotenv could not parse statement starting at line " ++ toString line

/-- What is remarked each time a fault is found. Conversion and the count of operands remark on
theirs; scanning and the other checks of an evaluation do not. -/
def ofFault (fault : Fault) : List Entry :=
  match fault with
  | .unsupported _ | .unmatched _ | .unclosed _ => [refusedConversion fault]
  | .leftover count => [leftOperands count]
  | _ => []

end ReversePolish.Journal
