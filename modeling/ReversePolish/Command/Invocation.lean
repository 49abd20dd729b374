import ReversePolish.Command.Options

/-!
# Invocations

What a command line asks for. Options that hold for every command stand before its name, and those
of the command after it. The expressions of a batch stand together.

## Main definitions

* `Task`: the commands with their options.
* `Invocation`: a command, with the options before its name.
* `Invocation.ofArguments`: the invocation of a command line.
-/

namespace ReversePolish.Command

/-- The commands. -/
inductive Task where
  /-- Show the tokens of an expression. -/
  | tokens (text : Option String)
  /-- Show an expression in reverse Polish notation. -/
  | polish (text : Option String)
  /-- Calculate an expression, perhaps with all steps. -/
  | eval (text : Option String) (steps : Bool)
  /-- Calculate expressions, also those of a file. Under `strict` a fault shows in the exit code. -/
  | batch (expressions : List String) (file : Option String) (strict : Bool)
  deriving DecidableEq, Repr

/-- A command line that can be carried out. -/
structure Invocation where
  /-- Layout is passed over, whatever the settings say. -/
  skipWhitespace : Bool := false
  /-- The name of the least severity that is logged, instead of that of the settings. -/
  logLevel : Option String := none
  /-- The command. -/
  task : Task
  deriving DecidableEq, Repr

/-- The options before the name of a command. -/
def globalTable : OptionTable :=
  [("-h", .help), ("--help", .help), ("--skip-whitespace", .switch .skipWhitespace),
    ("--log-level", .parameter .logLevel)]

/-- The options of a command on a single expression. -/
def textTable : OptionTable :=
  [("-h", .help), ("--help", .help), ("--text", .parameter .text), ("-t", .parameter .text)]

/-- The options of the calculation of an expression. -/
def evalTable : OptionTable :=
  textTable ++ [("--steps", .switch .steps), ("-s", .switch .steps)]

/-- The options of a batch. -/
def batchTable : OptionTable :=
  [("-h", .help), ("--help", .help), ("--file", .parameter .file), ("-f", .parameter .file),
    ("--strict", .switch .strict)]

/-- The options of a command that takes no operands. -/
def optionsOnly (table : OptionTable) (arguments : List String) : Except Refusal Given :=
  (wordsOf table arguments).bind fun words =>
    (readOptions table words).bind fun (given, after) =>
      if after.isEmpty then .ok given else .error .usage

/-- Whether a word belongs to the operands. -/
def Word.isOperand (word : Word) : Bool :=
  word.sense = .operand || word.sense = .separator

/-- The options of a command whose operands stand together, and these. A separator before or among
them is none of them. -/
def optionsAndOperands (table : OptionTable) (arguments : List String) :
    Except Refusal (Given × List String) :=
  (wordsOf table arguments).bind fun words =>
    (readOptions table words).bind fun (before, rest) =>
      (readOptions table (rest.dropWhile Word.isOperand)).bind fun (behind, after) =>
        if after.isEmpty then
          let operands := (rest.takeWhile Word.isOperand).filter (·.sense = .operand)
          .ok (before.append behind, operands.map (·.raw))
        else .error .usage

/-- The command of the given name, with the words after it. -/
def taskOf (name : String) (arguments : List String) : Except Refusal Task :=
  match name with
  | "tokens" => (optionsOnly textTable arguments).map fun given => .tokens (given.value? .text)
  | "postfix" => (optionsOnly textTable arguments).map fun given => .polish (given.value? .text)
  | "eval" =>
    (optionsOnly evalTable arguments).map fun given =>
      .eval (given.value? .text) (given.has .steps)
  | "batch" =>
    (optionsAndOperands batchTable arguments).map fun (given, expressions) =>
      .batch expressions (given.value? .file) (given.has .strict)
  | _ => .error .usage

namespace Invocation

/-- The invocation of a command line. -/
def ofArguments (arguments : List String) : Except Refusal Invocation :=
  (wordsOf globalTable arguments).bind fun words =>
    (readOptions globalTable words).bind fun (given, rest) =>
      match rest with
      | [] => .error .usage
      | name :: after =>
        if name.sense = .separator then .error .usage
        else
          (taskOf name.raw (after.map (·.raw))).map fun task =>
            { skipWhitespace := given.has .skipWhitespace,
              logLevel := given.value? .logLevel,
              task }

end Invocation

end ReversePolish.Command
