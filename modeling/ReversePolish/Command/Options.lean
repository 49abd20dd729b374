import ReversePolish.Text.DecimalDigit

/-!
# Options on a command line

The words of a command line are operands, options, and the separator `--`, after which every word is
an operand. A long option may be cut short as long as it is the only one that goes on so, and its
value follows it or an equals sign. Short options may share a word, and the value of the last of
them may be joined to it. A word that begins with a minus is nevertheless an operand if it is only
that minus, a negative number, or holds a space.

## Main definitions

* `OptionTable`: the options of a command.
* `senseOf`, `wordsOf`: what the words are.
* `Given`: the options that were given.
* `readOptions`: the options at the front, and the words after them.
-/

namespace ReversePolish.Command

/-- The options that are either given or not. -/
inductive Switch where
  | skipWhitespace
  | steps
  | strict
  deriving DecidableEq, Repr

/-- The options that have a value. -/
inductive Parameter where
  | logLevel
  | text
  | file
  deriving DecidableEq, Repr

/-- What an option does. -/
inductive Role where
  /-- It asks for help. -/
  | help
  | switch (switch : Switch)
  | parameter (parameter : Parameter)
  deriving DecidableEq, Repr

/-- The options of a command with their names. -/
abbrev OptionTable := List (String × Role)

/-- Why a command line is not carried out. -/
inductive Refusal where
  /-- It is not well formed. -/
  | usage
  /-- It asks for help instead. -/
  | help
  deriving DecidableEq, Repr

/-- What a word is. -/
inductive Sense where
  | operand
  | separator
  /-- An option, by a long name or not, and the text that is joined to it. -/
  | option (role : Role) (long : Bool) (attached : Option String)
  /-- A word in the place of an option that is none. -/
  | unknown
  deriving DecidableEq, Repr

/-- A word of a command line. -/
structure Word where
  /-- The word as it was given. -/
  raw : String
  /-- What it is. -/
  sense : Sense
  deriving DecidableEq, Repr

/-- Whether a word is a minus with digits, or with digits around a point, the last of them after
it. A line feed may follow. -/
def isNegativeNumber (cs : List Char) : Bool :=
  let line := if cs.getLast? = some '\n' then cs.dropLast else cs
  match line with
  | '-' :: body =>
    let whole := body.takeWhile Text.isDecimalDigit
    match body.dropWhile Text.isDecimalDigit with
    | [] => !whole.isEmpty
    | '.' :: fraction => !fraction.isEmpty && fraction.all Text.isDecimalDigit
    | _ => false
  | _ => false

/-- Splits a word at its first equals sign. -/
def splitEquals (cs : List Char) : List Char × Option String :=
  match cs.dropWhile (· ≠ '=') with
  | [] => (cs, none)
  | _ :: value => (cs.takeWhile (· ≠ '='), some (String.ofList value))

/-- The options that a word may be meant as, where it is not the name of one. -/
def candidates (table : OptionTable) (cs : List Char) : List Sense :=
  match cs with
  | '-' :: '-' :: _ =>
    let (name, attached) := splitEquals cs
    (table.filter fun entry => name.isPrefixOf entry.1.toList).map fun entry =>
      .option entry.2 true attached
  | dash :: letter :: rest =>
    (table.filter fun entry => entry.1.toList = [dash, letter]).map fun entry =>
      .option entry.2 false (some (String.ofList rest))
  | _ => []

/-- What a word before any separator is. A cut option that may be several is refused. -/
def senseOf (table : OptionTable) (argument : String) : Except Refusal Sense :=
  let cs := argument.toList
  let isLong := fun (name : List Char) => ['-', '-'].isPrefixOf name
  if cs.head? ≠ some '-' then .ok .operand
  else
    match table.lookup argument with
    | some role => .ok (.option role (isLong cs) none)
    | none =>
      if cs.length = 1 then .ok .operand
      else
        let (name, attached) := splitEquals cs
        match attached, table.lookup (String.ofList name) with
        | some attached, some role => .ok (.option role (isLong name) (some attached))
        | _, _ =>
          match candidates table cs with
          | [sense] => .ok sense
          | _ :: _ :: _ => .error .usage
          | [] => .ok (if isNegativeNumber cs ∨ ' ' ∈ cs then .operand else .unknown)

/-- The words of a command line. -/
def wordsOf (table : OptionTable) : List String → Except Refusal (List Word)
  | [] => .ok []
  | argument :: rest =>
    if argument = "--" then
      .ok ({ raw := argument, sense := .separator } ::
        rest.map fun raw => { raw, sense := .operand })
    else
      match senseOf table argument, wordsOf table rest with
      | .ok sense, .ok words => .ok ({ raw := argument, sense } :: words)
      | .error refusal, _ => .error refusal
      | _, .error refusal => .error refusal

/-- Options that were given. -/
structure Given where
  /-- Help was asked for. -/
  help : Bool := false
  /-- The switches. -/
  switches : List Switch := []
  /-- The parameters with their values, in order. -/
  values : List (Parameter × String) := []
  deriving DecidableEq, Repr

namespace Given

/-- The options of both, in order. -/
def append (first second : Given) : Given where
  help := first.help || second.help
  switches := first.switches ++ second.switches
  values := first.values ++ second.values

/-- A single parameter with its value. -/
def ofValue (parameter : Parameter) (value : String) : Given where
  values := [(parameter, value)]

/-- Whether the switch was given. -/
def has (given : Given) (switch : Switch) : Bool :=
  given.switches.contains switch

/-- The value of the parameter. If it was given more than once, the last one counts. -/
def value? (given : Given) (parameter : Parameter) : Option String :=
  ((given.values.filter fun entry => entry.1 = parameter).getLast?).map (·.2)

end Given

/-- An option without anything joined to it: what it gives, or the parameter that waits for the
next word. -/
def alone : Role → Given × Option Parameter
  | .help => ({ help := true }, none)
  | .switch switch => ({ switches := [switch] }, none)
  | .parameter parameter => ({}, some parameter)

/-- A short option with text joined to it. For a parameter the text is its value. For a switch it
goes on with further short options, whether an equals sign stands before it or not. -/
def cluster (table : OptionTable) (role : Role) (cs : List Char) :
    Except Refusal (Given × Option Parameter) :=
  match role with
  | .parameter parameter => .ok (.ofValue parameter (String.ofList cs), none)
  | _ =>
    match cs with
    | [] => .error .usage
    | letter :: rest =>
      match table.lookup (String.ofList ['-', letter]) with
      | none => .error .usage
      | some next =>
        let more := if rest.isEmpty then .ok (alone next) else cluster table next rest
        more.map fun (given, waiting) => ((alone role).1.append given, waiting)

/-- What an option with its attached text gives, and the parameter that waits for the next word. -/
def expand (table : OptionTable) (role : Role) (long : Bool) :
    Option String → Except Refusal (Given × Option Parameter)
  | none => .ok (alone role)
  | some attached =>
    match long, role with
    | true, .parameter parameter => .ok (.ofValue parameter attached, none)
    | true, _ => .error .usage
    | false, _ => cluster table role attached.toList

/-- The options at the front of the words, and the words from the first operand on. Help is given at
once, whatever follows. -/
def readOptions (table : OptionTable) : List Word → Except Refusal (Given × List Word)
  | [] => .ok ({}, [])
  | word :: rest =>
    match word.sense with
    | .operand | .separator => .ok ({}, word :: rest)
    | .unknown => .error .usage
    | .option role long attached =>
      match expand table role long attached, rest with
      | .error refusal, _ => .error refusal
      | .ok (given, none), rest =>
        if given.help then .error .help
        else (readOptions table rest).map fun (more, after) => (given.append more, after)
      | .ok (given, some parameter), value :: rest =>
        if value.sense ≠ .operand then .error .usage
        else if given.help then .error .help
        else
          (readOptions table rest).map fun (more, after) =>
            ((given.append (.ofValue parameter value.raw)).append more, after)
      | .ok (_, some _), [] => .error .usage

end ReversePolish.Command
