import ReversePolish.Command.Console

/-!
# The program

Reads the command line, the input, the files and the variables, carries the invocation out, and
writes what it shows and remarks. Tables are drawn here, by a console that knows no marks.
-/

namespace ReversePolish.Command

/-- The names of the variables that are settings. -/
def settingNames : List String :=
  ["SKIP_WHITESPACE", "STRICT_TOKENIZER", "MAX_EXPRESSION_LENGTH", "LOG_LEVEL", "APP_TITLE",
    "APP_VERSION"].map (Settings.variableMark ++ ·)

/-- The width of a column: that of its widest cell. -/
def columnWidths (table : Table) : List Nat :=
  (table.rows.foldl (fun widths row => List.zipWith max widths (row.map String.length))
    (table.columns.map String.length))

/-- A row of cells in columns of the given widths. -/
def rowLine (widths : List Nat) (cells : List String) : String :=
  "| " ++ " | ".intercalate (List.zipWith (fun width cell =>
    String.ofList (cell.toList.rightpad width ' ')) widths cells) ++ " |\n"

/-- A table as lines of text. -/
def tableLines (table : Table) : String :=
  let widths := columnWidths table
  table.title ++ "\n" ++ rowLine widths table.columns ++
    String.join (table.rows.map (rowLine widths))

/-- What is shown, as text. -/
def shownText : Shown → String
  | .lines text => text
  | .heading text => text ++ "\n"
  | .table table => tableLines table

/-- What is written where a run breaks off. -/
def breakOffText (cause : BreakOff) : String :=
  match cause with
  | .settings complaints =>
    String.join (complaints.map fun complaint =>
      ".".intercalate (complaint.place.map fun
        | .field name => name
        | .item index => toString index) ++ ": " ++ complaint.violation.name ++ "\n")
  | _ => cause.message?.getD "undecodable file" ++ "\n"

/-- What is found under the name of a file. -/
def viewFile (path : String) : IO FileView := do
  try
    return .contents (← IO.FS.readBinFile path)
  catch
    | .inappropriateType _ 21 _ => return .folder
    | .inappropriateType .. => return .belowFile
    | .invalidArgument .. => return .nameTooLong
    | _ => return .absent

/-- The names of the variables that a file refers to. -/
def namesIn : FileView → List String
  | .contents bytes => ((decode? bytes).toOption.map fun text =>
      Assignment.referencesIn text.toList).getD []
  | _ => []

/-- The file that a task reads, if it reads one. -/
def fileOf : Task → Option String
  | .batch _ file _ => nonempty? file
  | _ => none

/-- Whether a task takes its expression from the input. -/
def usesInput : Task → Bool
  | .tokens text | .polish text | .eval text _ => (nonempty? text).isNone
  | .batch _ _ _ => false

/-- How a command line is formed. -/
def usageText : String :=
  "usage: [--skip-whitespace] [--log-level LEVEL] COMMAND\n" ++
  "  tokens  [--text EXPR]\n" ++
  "  postfix [--text EXPR]\n" ++
  "  eval    [--text EXPR] [--steps]\n" ++
  "  batch   [EXPR ...] [--file FILE] [--strict]\n"

end ReversePolish.Command

open ReversePolish.Command in
/-- Carries out a command line. -/
def main (arguments : List String) : IO UInt32 := do
  match Invocation.ofArguments arguments with
  | .error .help =>
    IO.print usageText
    return 0
  | .error .usage =>
    IO.eprint usageText
    return 2
  | .ok invocation =>
    let settingsView ← viewFile Surroundings.settingsFile
    let wanted := (fileOf invocation.task).getD ""
    let view ← if wanted = "" then pure .absent else viewFile wanted
    let environment ← (settingNames ++ namesIn settingsView).filterMapM fun name => do
      return (← IO.getEnv name).map (name, ·)
    let input ← if usesInput invocation.task then (← IO.getStdin).readToEnd else pure ""
    let world : Surroundings := {
      input
      file := fun path =>
        if path = wanted then view
        else if path = Surroundings.settingsFile then settingsView
        else .absent
      environment }
    let performance := Console.plain.perform (invocation.run world)
    for shown in performance.shown do
      IO.print (shownText shown)
    IO.eprint performance.remarks
    match performance.finale with
    | .ended (.exit code) => return code.toUInt32
    | .ended (.brokenOff cause) =>
      IO.eprint (breakOffText cause)
      return 1
    | .refused _ => return 1
