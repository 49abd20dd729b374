import ReversePolish.Command.Run
import ReversePolish.Proofs.Pending

/-!
# Commands on an expression

What becomes of a command line that names a command and gives its expression behind `--text=`, under
settings that are found and the severity that is logged by default. The expression may be any text:
what it looks like does not matter behind the equals sign.

- `senseOf_assigned`, `exists_senseOf_assigned`: what a word with an equals sign is to the command
  that has its option, and to one that has not;
- `ofArguments_command`: the words after the name of a command are left to the command;
- `TakesText`, `TakesText.ofArguments`: the commands that take a single expression, and what their
  command lines ask for;
- `carryOut_eval`, `carryOut_polish`: the outcome of the commands that calculate and convert.
-/

namespace ReversePolish.Command

/-! ## Words with an equals sign -/

/-- A long option with its value behind an equals sign. -/
def assigned (name value : String) : String :=
  name ++ "=" ++ value

theorem toList_assigned (name value : String) :
    (assigned name value).toList = name.toList ++ '=' :: value.toList := by
  simp [assigned]

/-- No name of an option has an equals sign in it. -/
def OptionTable.Plain (table : OptionTable) : Prop :=
  ∀ entry ∈ table, '=' ∉ entry.1.toList

instance (table : OptionTable) : Decidable table.Plain :=
  inferInstanceAs (Decidable (∀ entry ∈ table, '=' ∉ entry.1.toList))

theorem splitEquals_append {name : List Char} (plain : '=' ∉ name) (value : List Char) :
    splitEquals (name ++ '=' :: value) = (name, some (String.ofList value)) := by
  have all : ∀ c ∈ name, decide (c ≠ '=') = true := by
    intro c hc
    refine decide_eq_true ?_
    rintro rfl
    exact plain hc
  rw [splitEquals, List.dropWhile_append_of_pos all, List.takeWhile_append_of_pos all]
  simp

/-- A word with an equals sign is none without. -/
theorem assigned_ne {other : String} (plain : '=' ∉ other.toList) (name value : String) :
    assigned name value ≠ other := by
  rintro rfl
  simp [toList_assigned] at plain

/-- A word with an equals sign is not the name of an option. -/
theorem lookup_assigned {table : OptionTable} (plain : table.Plain) (name value : String) :
    table.lookup (assigned name value) = none := by
  rw [List.lookup_eq_none_iff]
  intro entry he
  rw [bne_iff_ne]
  exact assigned_ne (plain entry he) name value

variable {table : OptionTable} {name : String} {rest : List Char}

/-- What a word with an equals sign is: the option of its name, or else the only one that its name
is the beginning of. -/
theorem senseOf_assigned (plain : table.Plain) (long : name.toList = '-' :: '-' :: rest)
    (noEquals : '=' ∉ rest) (value : String) :
    senseOf table (assigned name value) =
      match table.lookup name with
      | some role => .ok (.option role true (some value))
      | none =>
        match (table.filter fun entry => name.toList.isPrefixOf entry.1.toList).map
            fun entry => Sense.option entry.2 true (some value) with
        | [sense] => .ok sense
        | _ :: _ :: _ => .error .usage
        | [] =>
          .ok (if isNegativeNumber (assigned name value).toList ∨ ' ' ∈ (assigned name value).toList
            then .operand else .unknown) := by
  -- The first equals sign is the one behind the name, whatever the value holds.
  have split : splitEquals (assigned name value).toList = (name.toList, some value) := by
    rw [toList_assigned, splitEquals_append (by simp [long, noEquals]), String.ofList_toList]
  have first : (assigned name value).toList.head? = some '-' := by simp [toList_assigned, long]
  have size : (assigned name value).toList.length ≠ 1 := by
    simp only [toList_assigned, long, List.cons_append, List.length_cons]
    omega
  have isLong : ['-', '-'].isPrefixOf name.toList = true := by simp [long]
  have candidate : candidates table (assigned name value).toList =
      (table.filter fun entry => name.toList.isPrefixOf entry.1.toList).map
        fun entry => .option entry.2 true (some value) := by
    have chars : (assigned name value).toList = '-' :: '-' :: (rest ++ '=' :: value.toList) := by
      rw [toList_assigned, long, List.cons_append, List.cons_append]
    rw [chars, candidates, ← chars, split]
  simp only [senseOf, first, lookup_assigned plain, size, split, String.ofList_toList, isLong,
    candidate, ne_eq, not_true_eq_false, if_false]
  cases table.lookup name <;> rfl

/-- The option of a table, with the value behind the equals sign. -/
theorem senseOf_assigned_of_lookup (plain : table.Plain) (long : name.toList = '-' :: '-' :: rest)
    (noEquals : '=' ∉ rest) {role : Role} (known : table.lookup name = some role)
    (value : String) :
    senseOf table (assigned name value) = .ok (.option role true (some value)) := by
  rw [senseOf_assigned plain long noEquals, known]

/-- A word whose name no option goes on from is none of the table, but it is not refused yet. -/
theorem exists_senseOf_assigned (plain : table.Plain) (long : name.toList = '-' :: '-' :: rest)
    (noEquals : '=' ∉ rest) (foreign : ∀ entry ∈ table, ¬ name.toList <+: entry.1.toList)
    (value : String) : ∃ sense, senseOf table (assigned name value) = .ok sense := by
  have unknown : table.lookup name = none := by
    rw [List.lookup_eq_none_iff]
    intro entry he
    rw [bne_iff_ne]
    rintro rfl
    exact foreign entry he (List.prefix_refl _)
  have none : (table.filter fun entry => name.toList.isPrefixOf entry.1.toList) = [] := by
    refine List.filter_eq_nil_iff.2 fun entry he => ?_
    rw [List.isPrefixOf_iff_prefix]
    exact foreign entry he
  rw [senseOf_assigned plain long noEquals, unknown, none]
  exact ⟨_, rfl⟩

/-- An option with its value behind an equals sign stands in front of other options. -/
theorem readOptions_assigned_cons (plain : table.Plain)
    (long : name.toList = '-' :: '-' :: rest) (noEquals : '=' ∉ rest) {parameter : Parameter}
    (known : table.lookup name = some (.parameter parameter)) (value : String)
    {options : List String} {words : List Word} {given : Given}
    (read : wordsOf table options = .ok words) (all : readOptions table words = .ok (given, [])) :
    ∃ more, wordsOf table (assigned name value :: options) = .ok more ∧
      readOptions table more =
        .ok ({ given with values := (parameter, value) :: given.values }, []) := by
  have sense := senseOf_assigned_of_lookup plain long noEquals known value
  have notSeparator : assigned name value ≠ "--" := assigned_ne (by decide) _ _
  refine ⟨{ raw := assigned name value
            sense := .option (.parameter parameter) true (some value) } :: words, ?_, ?_⟩
  · simp [wordsOf, notSeparator, sense, read]
  · simp [readOptions, expand, all, Except.map, Given.append, Given.ofValue]

/-! ## Command lines -/

/-- The command line that names a command and gives its expression, with layout passed over or
not. -/
def commandLine (skip : Bool) (command text : String) : List String :=
  (if skip then ["--skip-whitespace"] else []) ++ [command, assigned "--text" text]

/-- The outcome of a command line, unless it is refused. -/
def carryOut (world : Surroundings) (arguments : List String) : Except Refusal Outcome :=
  (Invocation.ofArguments arguments).map (·.run world)

/-- Words are kept as they were given. -/
theorem map_raw_of_wordsOf {arguments : List String} {words : List Word}
    (read : wordsOf table arguments = .ok words) : words.map (·.raw) = arguments := by
  induction arguments generalizing words with
  | nil =>
    cases read
    rfl
  | cons argument rest ih =>
    rw [wordsOf] at read
    split at read
    · cases read
      simp [Function.comp_def]
    · cases sense : senseOf table argument <;> cases others : wordsOf table rest <;>
        rw [sense, others] at read <;> cases read
      rw [List.map_cons, ih others]

/-- A command line is read as long as each of its words is. -/
theorem exists_wordsOf {arguments : List String}
    (each : ∀ word ∈ arguments, ∃ sense, senseOf table word = .ok sense) :
    ∃ words, wordsOf table arguments = .ok words := by
  induction arguments with
  | nil => exact ⟨[], rfl⟩
  | cons word arguments ih =>
    rw [List.forall_mem_cons] at each
    obtain ⟨⟨sense, first⟩, others⟩ := each
    obtain ⟨words, read⟩ := ih others
    rw [wordsOf, first, read]
    split
    · exact ⟨_, rfl⟩
    · exact ⟨_, rfl⟩

/-- The switch in front of the name of a command that lets layout be passed over. -/
def skipSwitch (skip : Bool) : List String :=
  if skip then ["--skip-whitespace"] else []

/-- Behind the switch and the name of a command, the words are left to the command, as long as none
of them is refused before. -/
theorem ofArguments_command {command : String} (named : senseOf globalTable command = .ok .operand)
    (notSeparator : command ≠ "--") {arguments : List String} {words : List Word}
    (read : wordsOf globalTable arguments = .ok words) (skip : Bool) :
    Invocation.ofArguments (skipSwitch skip ++ command :: arguments) =
      (taskOf command arguments).map fun task => { skipWhitespace := skip, task } := by
  -- All words are read before the command is known, and then those behind its name once more.
  have switch : senseOf globalTable "--skip-whitespace" =
      .ok (.option (.switch .skipWhitespace) true none) := by decide +kernel
  have all : wordsOf globalTable (skipSwitch skip ++ command :: arguments) =
      .ok ((if skip then
          [{ raw := "--skip-whitespace", sense := .option (.switch .skipWhitespace) true none }]
        else []) ++ { raw := command, sense := .operand } :: words) := by
    cases skip <;> simp [skipSwitch, wordsOf, named, notSeparator, read, switch]
  rw [Invocation.ofArguments, all, ← map_raw_of_wordsOf read]
  cases skip <;> rfl

/-! ## Commands on an expression -/

/-- The commands that take a single expression, with their switches and what they ask for. -/
inductive TakesText : String → List String → (Option String → Task) → Prop
  | tokens : TakesText "tokens" [] .tokens
  | polish : TakesText "postfix" [] .polish
  | eval : TakesText "eval" [] (.eval · false)
  | steps {name : String} (known : name ∈ ["--steps", "-s"]) :
      TakesText "eval" [name] (.eval · true)

/-- The word that gives an expression, if one is given. -/
def textWords (text : Option String) : List String :=
  text.toList.map (assigned "--text")

/-- The command line of a command that takes a single expression. -/
def textLine (skip : Bool) (command : String) (text : Option String) (switches : List String) :
    List String :=
  skipSwitch skip ++ command :: (textWords text ++ switches)

/-- The expression of a command that takes no operands is read, if it is given, and then its
switches. -/
theorem optionsOnly_textWords {table : OptionTable} (plain : table.Plain)
    (known : table.lookup "--text" = some (.parameter .text)) {switches : List String}
    {words : List Word} {given : Given} (read : wordsOf table switches = .ok words)
    (all : readOptions table words = .ok (given, [])) (text : Option String) :
    optionsOnly table (textWords text ++ switches) =
      .ok { given with values := text.toList.map (Parameter.text, ·) ++ given.values } := by
  obtain ⟨more, readMore, allMore⟩ : ∃ more,
      wordsOf table (textWords text ++ switches) = .ok more ∧
      readOptions table more =
        .ok ({ given with values := text.toList.map (Parameter.text, ·) ++ given.values }, []) := by
    cases text with
    | none => exact ⟨words, read, all⟩
    | some text =>
      have long : "--text".toList = '-' :: '-' :: "text".toList := by decide
      exact readOptions_assigned_cons plain long (by decide) known text read all
  rw [optionsOnly, readMore, Except.bind, allMore]
  rfl

namespace TakesText

variable {command : String} {switches : List String} {task : Option String → Task}

/-- Such a command reads its expression, if it is given, and its switches. -/
theorem taskOf (takes : TakesText command switches task) (text : Option String) :
    Command.taskOf command (textWords text ++ switches) = .ok (task text) := by
  cases takes with
  | tokens | polish | eval =>
    rw [Command.taskOf, optionsOnly_textWords (by decide) (by decide) rfl rfl]
    cases text <;> rfl
  | @steps name known =>
    have switch : ∀ name ∈ ["--steps", "-s"], ∃ long, wordsOf evalTable [name] =
        .ok [{ raw := name, sense := .option (.switch .steps) long none }] := by decide +kernel
    obtain ⟨long, read⟩ := switch name known
    rw [Command.taskOf, optionsOnly_textWords (by decide) (by decide) read rfl]
    cases text <;> rfl

/-- None of its words is refused before the command reads it. -/
theorem exists_senseOf (takes : TakesText command switches task) (text : Option String) :
    ∀ word ∈ textWords text ++ switches, ∃ sense, senseOf globalTable word = .ok sense := by
  have long : "--text".toList = '-' :: '-' :: "text".toList := by decide
  rw [List.forall_mem_append]
  refine ⟨?_, ?_⟩
  · intro word hword
    obtain ⟨given, -, rfl⟩ := List.mem_map.1 hword
    exact exists_senseOf_assigned (by decide) long (by decide) (by decide) given
  · cases takes with
    | tokens | polish | eval => simp
    | @steps name known =>
      have switch : ∀ name ∈ ["--steps", "-s"], senseOf globalTable name = .ok .unknown := by
        decide +kernel
      simp [switch name known]

theorem named (takes : TakesText command switches task) :
    senseOf globalTable command = .ok .operand ∧ command ≠ "--" := by
  cases takes <;> decide +kernel

/-- The command line asks for the command on the expression, if one is given. -/
theorem ofArguments (takes : TakesText command switches task) (skip : Bool)
    (text : Option String) :
    Invocation.ofArguments (textLine skip command text switches) =
      .ok { skipWhitespace := skip, task := task text } := by
  obtain ⟨words, globally⟩ := exists_wordsOf (takes.exists_senseOf text)
  rw [textLine, ofArguments_command takes.named.1 takes.named.2 globally, takes.taskOf]
  rfl

/-- The command line of an expression asks for the command on it. -/
theorem ofArguments_commandLine (takes : TakesText command [] task) (skip : Bool) (text : String) :
    Invocation.ofArguments (commandLine skip command text) =
      .ok { skipWhitespace := skip, task := task (some text) } :=
  takes.ofArguments skip (some text)

end TakesText

/-! ## Runs -/

@[simp]
theorem Outcome.after_after (outcome : Outcome) (first second : String) :
    (outcome.after second).after first = outcome.after (first ++ second) := by
  simp [Outcome.after, String.append_assoc]

/-- The rank of the severity that is logged by default. -/
def standardRank : Nat := Journal.Severity.info.rank

/-- What is remarked on the file of assignments while a command is carried out by default. -/
def Surroundings.settingsRemarks (world : Surroundings) : String :=
  Journal.writtenEarly world.settingsEntries ++
    Journal.written standardRank world.settingsEntries

/-- What is remarked where a fault is found is not logged by default. -/
theorem written_ofFault (fault : Fault) :
    Journal.written standardRank (Journal.ofFault fault) = "" := by
  cases fault <;> rfl

theorem written_append (rank : Nat) (entries more : List Journal.Entry) :
    Journal.written rank (entries ++ more) =
      Journal.written rank entries ++ Journal.written rank more := by
  simp [Journal.written]

variable {world : Surroundings} {settings : Settings}

/-- Where nothing else is said, the severity is that of the settings. -/
theorem rank_of_logLevel {invocation : Invocation} (unsaid : invocation.logLevel = none)
    (found : world.settings = .ok settings) (level : settings.logLevel = "INFO") :
    invocation.rank world = .ok standardRank := by
  have known : Journal.threshold? "INFO" = some standardRank := by decide +kernel
  simp [Invocation.rank, Invocation.levelName?, nonempty?, unsaid, found, level, known, Except.map,
    Except.bind]

/-- A command that is given an expression works on that. -/
theorem onExpression_some {invocation : Invocation} (found : world.settings = .ok settings)
    {text : String} (notEmpty : text ≠ "") (rank : Nat)
    (command : Scan.Mode → String → Outcome) :
    invocation.onExpression world rank (some text) command =
      (command (invocation.mode settings) text).after
        (Journal.written rank world.settingsEntries) := by
  have given : nonempty? (some text) = some text := by simp [nonempty?, notEmpty]
  rw [Invocation.onExpression, given, Option.some_or]
  dsimp only
  rw [Invocation.underSettings, found]

/-- A run under settings that are found remarks on them first. -/
theorem run_of_runTask {invocation : Invocation} {outcome : Outcome}
    (unsaid : invocation.logLevel = none) (found : world.settings = .ok settings)
    (level : settings.logLevel = "INFO")
    (task : invocation.runTask world standardRank =
      outcome.after (Journal.written standardRank world.settingsEntries)) :
    invocation.run world = outcome.after world.settingsRemarks := by
  -- The settings are read for the severity and again for the command, each time with their remarks.
  have early : invocation.earlyRemarks world = Journal.writtenEarly world.settingsEntries := by
    simp [Invocation.earlyRemarks, Invocation.levelName?, nonempty?, unsaid]
  rw [Invocation.run, rank_of_logLevel unsaid found level, early]
  dsimp only
  rw [task, Outcome.after_after, Surroundings.settingsRemarks]

/-- How a command scans, by the settings and the switch. -/
def scanMode (settings : Settings) (skip : Bool) : Scan.Mode where
  skipLayout := settings.skipWhitespace || skip
  strict := settings.strictTokenizer

theorem mode_eq_scanMode (skip : Bool) (logLevel : Option String) (task : Task) :
    ({ skipWhitespace := skip, logLevel, task } : Invocation).mode settings =
      scanMode settings skip := by
  cases skip <;> simp [Invocation.mode, Settings.mode, scanMode]

/-- Calculating an expression that is given shows its value. -/
theorem carryOut_eval (found : world.settings = .ok settings) (level : settings.logLevel = "INFO")
    {text : String} (notEmpty : text ≠ "") (skip : Bool) :
    carryOut world (commandLine skip "eval" text) =
      .ok ((showValue standardRank (scanMode settings skip) false text).after
        world.settingsRemarks) := by
  rw [carryOut, TakesText.eval.ofArguments_commandLine]
  refine congrArg Except.ok (run_of_runTask rfl found level ?_)
  rw [Invocation.runTask]
  dsimp only
  rw [onExpression_some found notEmpty, mode_eq_scanMode]

/-- Converting an expression that is given shows it in reverse Polish notation. -/
theorem carryOut_polish (found : world.settings = .ok settings)
    (level : settings.logLevel = "INFO") {text : String} (notEmpty : text ≠ "") (skip : Bool) :
    carryOut world (commandLine skip "postfix" text) =
      .ok ((showPolish standardRank (scanMode settings skip) text).after
        world.settingsRemarks) := by
  rw [carryOut, TakesText.polish.ofArguments_commandLine]
  refine congrArg Except.ok (run_of_runTask rfl found level ?_)
  rw [Invocation.runTask]
  dsimp only
  rw [onExpression_some found notEmpty, mode_eq_scanMode]

end ReversePolish.Command
