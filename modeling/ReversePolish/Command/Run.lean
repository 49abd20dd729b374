import ReversePolish.Batch
import ReversePolish.Command.Invocation
import ReversePolish.Journal
import ReversePolish.Settings
import ReversePolish.Text.Charset

/-!
# Running a command

An invocation is carried out against its surroundings: the input, the files, the variables and the
character set of the output. The outcome says what was shown and remarked, and how the run ended. A
run ends with an exit code, unless it breaks off. Headings and tables are only handed to a console,
with their texts as they are; what is seen of an outcome is said in
`ReversePolish.Command.Console`.

## Main definitions

* `Surroundings`: what a run can see.
* `Shown`, `Table`: what a run shows, or hands to a console.
* `BreakOff`: why a run breaks off.
* `Outcome`: all that a run does.
* `Invocation.run`: the outcome of an invocation.
-/

namespace ReversePolish.Command

/-- What is found under the name of a file. -/
inductive FileView where
  | absent
  | folder
  /-- The name goes on below a file, as if it were a folder. -/
  | belowFile
  /-- The name is too long. -/
  | nameTooLong
  | contents (bytes : ByteArray)

/-- What a run can see of the world. -/
structure Surroundings where
  /-- The text at the input. -/
  input : String := ""
  /-- What is found under the name of a file. -/
  file : String → FileView := fun _ => .absent
  /-- The variables of the environment. -/
  environment : List (String × String) := []
  /-- The characters that the output can hold. -/
  charset : Charset := .unicode

/-- Why a run breaks off. -/
inductive BreakOff where
  /-- The settings are faulty. -/
  | settings (complaints : List Complaint)
  /-- There is no severity of the given name. -/
  | unknownLevel (name : String)
  /-- A file is not in UTF-8. -/
  | undecodable
  /-- The name of a file holds a null character. -/
  | nullInName
  /-- There are no values that the sum of a batch could be shown of. -/
  | nothingToSum
  deriving DecidableEq, Repr

namespace BreakOff

/-- The cause in words, where it has its own. -/
def message? : BreakOff → Option String
  | .unknownLevel name => some (Journal.unknownThreshold name)
  | .nullInName => some "embedded null byte"
  | .nothingToSum => some "'int' object has no attribute 'is_integer'"
  | .settings _ | .undecodable => none

end BreakOff

/-- A table. -/
structure Table where
  /-- The line above it. -/
  title : String
  /-- The heads of its columns. -/
  columns : List String
  /-- The cells of its rows. -/
  rows : List (List String)
  deriving DecidableEq, Repr

/-- What a run shows at its output. -/
inductive Shown where
  /-- Lines of text. -/
  | lines (text : String)
  /-- A heading, to be drawn by a console. -/
  | heading (text : String)
  /-- A table, to be drawn by a console. -/
  | table (table : Table)
  deriving DecidableEq, Repr

/-- How a run ends. -/
inductive Ending where
  | exit (code : Nat)
  | brokenOff (cause : BreakOff)
  deriving DecidableEq, Repr

/-- All that a run does, as long as the console draws what it is handed. -/
structure Outcome where
  /-- What is shown, in order. -/
  shown : List Shown := []
  /-- What is written beside it: log lines, and what is wrong. -/
  remarks : String := ""
  /-- How the run ends. -/
  ending : Ending
  deriving DecidableEq, Repr

namespace Outcome

/-- A run that breaks off before it does anything. -/
def ofBreakOff (cause : BreakOff) : Outcome where
  ending := .brokenOff cause

/-- A run that fails with a line of remarks. -/
def failure (remark : String) : Outcome where
  remarks := remark ++ "\n"
  ending := .exit 1

/-- The same run with log lines before its remarks. -/
def after (log : String) (outcome : Outcome) : Outcome :=
  { outcome with remarks := log ++ outcome.remarks }

end Outcome

/-- The text of a file in UTF-8. -/
def decode? (bytes : ByteArray) : Except BreakOff String :=
  match String.fromUTF8? bytes with
  | some text => .ok text
  | none => .error .undecodable

namespace Surroundings

/-- The name of the file of assignments beside the environment. -/
def settingsFile : String := ".env"

/-- What the file of assignments gives, if there is one. -/
def assignments (world : Surroundings) : Except BreakOff Assignment.Contents :=
  match world.file settingsFile with
  | .contents bytes => (decode? bytes).map (Assignment.read world.environment)
  | _ => .ok {}

/-- What is remarked each time the settings are read. -/
def settingsEntries (world : Surroundings) : List Journal.Entry :=
  match world.assignments with
  | .ok found => found.unreadable.map Journal.unreadableStatement
  | .error _ => []

/-- The settings. The environment goes before the file of assignments. -/
def settings (world : Surroundings) : Except BreakOff Settings :=
  world.assignments.bind fun found =>
    match Settings.ofVariables { environment := world.environment, assigned := found.bindings } with
    | .ok settings => .ok settings
    | .error complaints => .error (.settings complaints)

/-- The expression at the input: all of it but the blanks at its ends, if anything is left. -/
def inputExpression? (world : Surroundings) : Option String :=
  let text := Text.trim world.input
  if text = "" then none else some text

end Surroundings

/-- The expressions of a file: its lines without the blanks at their ends, but for empty ones. -/
def expressionsOf (contents : String) : List String :=
  ((Text.lines contents).map Text.trim).filter (· ≠ "")

/-- The text of an option, if it was given and is not empty. -/
def nonempty? (value : Option String) : Option String :=
  value.filter (· ≠ "")

/-- A table of tokens. -/
def tokenTable (charset : Charset) (ts : List Token) : Table where
  title := "Tokens [" ++ toString ts.length ++ "]"
  columns := ["#", "Pos", "Kind", "Text", "Message"]
  rows := ts.zipIdx.map fun (t, i) => [
    toString (i + 1),
    (t.position.map toString).getD "-",
    t.kind.name,
    charset.shown t.text,
    charset.shown (t.message.getD "")]

/-- A table of the items of a batch. -/
def batchTableOf (charset : Charset) (items : List Batch.Item) : Table where
  title := "Batch [ok=" ++ toString (Batch.succeeded items) ++ " ko=" ++
    toString (Batch.failed items) ++ "]"
  columns := ["Expression", "Postfix", "Result", "Status"]
  rows := items.map fun item =>
    let (result, status) :=
      match item.outcome with
      | .ok x => (Number.plain x, "ok")
      | .error fault => (fault.message, fault.code.name)
    [charset.shown item.expression, charset.shown item.rendered, charset.shown result, status]

/-- The line under the table of a batch. -/
def summaryLine (items : List Batch.Item) (sum : Float) : String :=
  "ok: " ++ toString (Batch.succeeded items) ++ "  ko: " ++ toString (Batch.failed items) ++
    "  sum: " ++ Number.plain sum ++ "\n"

/-- The lines of the steps of a calculation. -/
def stepLines (steps : List Step) : String :=
  String.join (steps.zipIdx.map fun (step, i) =>
    "  " ++ toString (i + 1) ++ ". " ++ step.text ++ "\n")

/-- What is remarked in a batch: on each fault, and at its end. -/
def batchEntries (items : List Batch.Item) : List Journal.Entry :=
  (items.filterMap Batch.Item.fault?).flatMap Journal.ofFault ++
    [Journal.finishedBatch (Batch.succeeded items) (Batch.failed items)]

/-- Shows the tokens of an expression. -/
def showTokens (charset : Charset) (mode : Scan.Mode) (expression : String) : Outcome :=
  match Scan.tokens mode expression with
  | .ok ts =>
    { shown := [.heading (charset.shown expression), .table (tokenTable charset ts)],
      ending := .exit 0 }
  | .error fault => .failure ("Błąd: " ++ fault.message)

/-- Shows an expression in reverse Polish notation. -/
def showPolish (rank : Nat) (mode : Scan.Mode) (expression : String) : Outcome :=
  let polish := toPolish mode expression
  let line := expression ++ " => " ++ render " " polish
  match polish with
  | .ok _ => { shown := [.lines (line ++ "\n")], ending := .exit 0 }
  | .error fault =>
    (Outcome.failure line).after (Journal.written rank (Journal.ofFault fault))

/-- Calculates an expression. It is converted twice, once to show it and once on the way to its
value, so that a fault of the conversion is remarked on twice. -/
def showValue (rank : Nat) (mode : Scan.Mode) (steps : Bool) (expression : String) : Outcome :=
  let polish := toPolish mode expression
  let line := expression ++ " => " ++ render " " polish ++ " => "
  match calculate mode expression with
  | .ok result =>
    { shown := [.lines (line ++ Number.plain result.value ++ "\n" ++
        if steps then stepLines result.steps else "")],
      ending := .exit 0 }
  | .error fault =>
    let entries := Journal.ofFault fault
    let log := if polish.isOk then entries else entries ++ entries
    (Outcome.failure
      (line ++ "cannot simulate: " ++ fault.message ++ " [" ++ fault.code.name ++ "]")).after
      (Journal.written rank log)

/-- Calculates a batch of expressions. Without any value there is no sum to be shown. The table is
handed to the console as it is, with square brackets in its cells. -/
def showBatch (charset : Charset) (rank : Nat) (mode : Scan.Mode) (strict : Bool)
    (expressions : List String) : Outcome :=
  let items := Batch.calculate mode expressions
  let table := Shown.table (batchTableOf charset items)
  let log := Journal.written rank (batchEntries items)
  match Batch.sum? items with
  | some sum =>
    { shown := [table, .lines (summaryLine items sum)],
      remarks := log,
      ending := .exit (if strict ∧ Batch.failed items ≠ 0 then 1 else 0) }
  | none => { shown := [table], remarks := log, ending := .brokenOff .nothingToSum }

/-- What is said of the name of a file that cannot be read. -/
def unreadable (code : Nat) (cause path : String) : Outcome :=
  .failure ("Błąd odczytu pliku: [Errno " ++ toString code ++ "] " ++ cause ++ ": " ++
    Text.quoted path)

/-- The expressions of the file with the given name. -/
def fileExpressions (world : Surroundings) (path : String) : Except Outcome (List String) :=
  if '\x00' ∈ path.toList then .error (.ofBreakOff .nullInName)
  else
    match world.file path with
    | .absent => .error (unreadable 2 "No such file or directory" path)
    | .folder => .error (unreadable 21 "Is a directory" path)
    | .belowFile => .error (unreadable 20 "Not a directory" path)
    | .nameTooLong => .error (unreadable 36 "File name too long" path)
    | .contents bytes =>
      match decode? bytes with
      | .ok contents => .ok (expressionsOf contents)
      | .error cause => .error (.ofBreakOff cause)

/-- The expressions of a batch: those that are given, then those of the file. There has to be at
least one. -/
def batchExpressions (world : Surroundings) (given : List String) (file : Option String) :
    Except Outcome (List String) :=
  let read : Except Outcome (List String) :=
    match nonempty? file with
    | none => .ok []
    | some path => fileExpressions world path
  read.bind fun more =>
    if (given ++ more).isEmpty then
      .error (.failure "Błąd: podaj wyrażenia jako argumenty lub przez --file")
    else .ok (given ++ more)

namespace Invocation

/-- How expressions are scanned. -/
def mode (invocation : Invocation) (settings : Settings) : Scan.Mode :=
  if invocation.skipWhitespace then { settings.mode with skipLayout := true }
  else settings.mode

/-- The name of the least severity that is logged, if it is given. -/
def levelName? (invocation : Invocation) : Option String :=
  nonempty? invocation.logLevel

/-- The least rank of remarks that are logged. The settings are only looked at if the command line
does not name it. -/
def rank (invocation : Invocation) (world : Surroundings) : Except BreakOff Nat :=
  let name : Except BreakOff String :=
    match invocation.levelName? with
    | some name => .ok name
    | none => world.settings.map (·.logLevel)
  name.bind fun name =>
    match Journal.threshold? name with
    | some rank => .ok rank
    | none => .error (.unknownLevel name)

/-- What is remarked while the least severity is looked for in the settings. -/
def earlyRemarks (invocation : Invocation) (world : Surroundings) : String :=
  if invocation.levelName?.isSome then "" else Journal.writtenEarly world.settingsEntries

/-- A command under the settings, which are read for it. -/
def underSettings (invocation : Invocation) (world : Surroundings) (rank : Nat)
    (command : Scan.Mode → Outcome) : Outcome :=
  let outcome : Outcome :=
    match world.settings with
    | .error cause => .ofBreakOff cause
    | .ok settings => command (invocation.mode settings)
  outcome.after (Journal.written rank world.settingsEntries)

/-- A command on the expression that is given or stands at the input. -/
def onExpression (invocation : Invocation) (world : Surroundings) (rank : Nat)
    (text : Option String) (command : Scan.Mode → String → Outcome) : Outcome :=
  match (nonempty? text).or world.inputExpression? with
  | none => .failure "Błąd: podaj wyrażenie przez --text lub stdin"
  | some expression => invocation.underSettings world rank fun mode => command mode expression

/-- A command on the expressions that are given or stand in a file. -/
def onExpressions (invocation : Invocation) (world : Surroundings) (rank : Nat)
    (given : List String) (file : Option String) (command : Scan.Mode → List String → Outcome) :
    Outcome :=
  invocation.underSettings world rank fun mode =>
    match batchExpressions world given file with
    | .error outcome => outcome
    | .ok expressions => command mode expressions

/-- The outcome of a command under the least rank of remarks that are logged. -/
def runTask (invocation : Invocation) (world : Surroundings) (rank : Nat) : Outcome :=
  match invocation.task with
  | .tokens text => invocation.onExpression world rank text (showTokens world.charset)
  | .polish text => invocation.onExpression world rank text (showPolish rank)
  | .eval text steps =>
    invocation.onExpression world rank text fun mode => showValue rank mode steps
  | .batch given file strict =>
    invocation.onExpressions world rank given file fun mode =>
      showBatch world.charset rank mode strict

/-- The outcome of an invocation. -/
def run (invocation : Invocation) (world : Surroundings) : Outcome :=
  let outcome : Outcome :=
    match invocation.rank world with
    | .error cause => .ofBreakOff cause
    | .ok rank => invocation.runTask world rank
  outcome.after (invocation.earlyRemarks world)

end Invocation

end ReversePolish.Command
