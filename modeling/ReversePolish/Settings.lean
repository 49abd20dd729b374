import ReversePolish.Assignment
import ReversePolish.Datum
import ReversePolish.Scan

/-!
# Settings

What the command line and the service can be set to. Settings are read from named data: from a
record, or from variables, whose names carry a mark in front. Names may be written in any case.
Variables come from the environment and from a file of assignments, which yields to it.

Names, defaults and wanted types of the settings are the program's own. How a datum is read as one
of a wanted type is not: `Settings.checkField` describes it for plain data. What is proved of
commands and answers takes the settings as found, and so holds however they are read.

## Main definitions

* `Settings`, with the defaults.
* `Settings.ofFields`: settings from named data.
* `Settings.ofDatum`: settings from a record.
* `Settings.Variables`, `Settings.ofVariables`: settings from variables.
-/

namespace ReversePolish

/-- The settings of the program. -/
structure Settings where
  /-- Layout between lexemes is passed over. -/
  skipWhitespace : Bool := false
  /-- A character that begins no lexeme is refused at once. -/
  strictTokenizer : Bool := false
  /-- The greatest number of characters of an expression that the service takes. -/
  maxExpressionLength : Int := 1000
  /-- The name of the least severity that is logged. -/
  logLevel : String := "INFO"
  /-- The title of the service. -/
  appTitle : String := "InfixRPN"
  /-- The version of the service. -/
  appVersion : String := "0.1.0"
  deriving DecidableEq, Repr

namespace Settings

/-- How expressions are scanned under the settings. -/
def mode (settings : Settings) : Scan.Mode where
  skipLayout := settings.skipWhitespace
  strict := settings.strictTokenizer

/-- The check of a named setting; one that is not given has its default. -/
def checkField {α : Type} (lookup : String → Option Datum) (name : String) (standard : α)
    (check : Datum → Except Violation α) : Checked α :=
  Checked.located [.field name]
    (match lookup name with
    | some datum => check datum
    | none => .ok standard)

/-- The settings that named data give, or all complaints in the order of the settings. -/
def ofFields (lookup : String → Option Datum) : Checked Settings :=
  let standard : Settings := {}
  let skip := checkField lookup "skip_whitespace" standard.skipWhitespace Datum.bool?
  let strict := checkField lookup "strict_tokenizer" standard.strictTokenizer Datum.bool?
  let length := checkField lookup "max_expression_length" standard.maxExpressionLength Datum.int?
  let level := checkField lookup "log_level" standard.logLevel Datum.text?
  let title := checkField lookup "app_title" standard.appTitle Datum.text?
  let version := checkField lookup "app_version" standard.appVersion Datum.text?
  (((skip.both strict).both length).both ((level.both title).both version)).map
    fun (((skip, strict), length), ((level, title), version)) =>
      { skipWhitespace := skip, strictTokenizer := strict, maxExpressionLength := length,
        logLevel := level, appTitle := title, appVersion := version }

/-- A name in lower case, as far as it can be the name of a setting. The Kelvin sign is the one
character beyond ASCII whose lower case is a letter of ASCII. -/
def foldName (s : String) : String :=
  String.ofList (s.toList.map fun c => if c = '\u212A' then 'k' else c.toLower)

/-- The field with the given name, in any case. Of several the first one counts. -/
def lookupField (datum : Datum) (name : String) : Option Datum :=
  match datum with
  | .record fields => (fields.find? fun field => foldName field.1 = name).map (·.2)
  | _ => none

/-- The settings that a record gives. -/
def ofDatum (datum : Datum) : Checked Settings :=
  ofFields (lookupField datum)

/-- The variables that settings are read from. -/
structure Variables where
  /-- The variables of the environment. -/
  environment : List (String × String) := []
  /-- The bindings of a file of assignments. -/
  assigned : List Assignment.Binding := []
  deriving DecidableEq, Repr

/-- The mark in front of the names of variables that are settings. -/
def variableMark : String := "INFIX_RPN_"

/-- What belongs to the given name, in any case. Of several the last one counts. -/
def lookupLast? {α : Type} (name : String) (entries : List (String × α)) : Option α :=
  ((entries.filter fun entry => foldName entry.1 = foldName name).getLast?).map (·.2)

/-- The value of the variable for the named setting. -/
def Variables.lookup (vars : Variables) (name : String) : Option Datum :=
  let marked := variableMark ++ name
  ((lookupLast? marked vars.environment).or (lookupLast? marked vars.assigned).join).map .text

/-- The settings that variables give. -/
def ofVariables (vars : Variables) : Checked Settings :=
  ofFields vars.lookup

end Settings

end ReversePolish
