import ReversePolish.Proofs.Batches
import ReversePolish.Proofs.Invoking
import ReversePolish.Proofs.SpelledLines

/-!
# Ways to give expressions

A batch takes its expressions from its command line, from a file, or from both, and the other
commands take theirs from the command line or from the input. Whichever way is taken, and however
the expressions are laid out in the file or at the input, the outcome is the same in all that it
shows, remarks and ends with.

- `Command.batchLine`, `Command.NamesFile`, `Command.ofArguments_batchLine`: the command lines of a
  batch, and what they ask for;
- `Command.batchExpressions_of_spells`: a file adds its expressions to those that are given;
- `Command.run_batch_congr`, `Command.TakesText.run_congr`: what a run depends on;
- `Command.channels_agree`: the ways in comparison.
-/

namespace ReversePolish.Command

/-! ## Operands and options -/

section Words

variable {table : OptionTable}

theorem senseOf_of_noDash {word : String} (noDash : word.toList.head? ≠ some '-') :
    senseOf table word = .ok .operand := by
  simp [senseOf, noDash]

theorem ne_separator_of_noDash {word : String} (noDash : word.toList.head? ≠ some '-') :
    word ≠ "--" := by
  rintro rfl
  exact noDash (by decide)

/-- The words that are operands. -/
def operandWords (operands : List String) : List Word :=
  operands.map fun raw => { raw, sense := .operand }

/-- Words that do not look like options are operands. -/
theorem wordsOf_append_of_noDash {operands options : List String} {words : List Word}
    (noDash : ∀ word ∈ operands, word.toList.head? ≠ some '-')
    (read : wordsOf table options = .ok words) :
    wordsOf table (operands ++ options) = .ok (operandWords operands ++ words) := by
  induction operands with
  | nil => exact read
  | cons word operands ih =>
    rw [List.forall_mem_cons] at noDash
    rw [List.cons_append, wordsOf, if_neg (ne_separator_of_noDash noDash.1),
      senseOf_of_noDash noDash.1, ih noDash.2]
    rfl

theorem isOperand_of_mem_operandWords {operands : List String} :
    ∀ word ∈ operandWords operands, word.isOperand = true := by
  simp [operandWords, Word.isOperand]

/-- Operands are kept as they were given. -/
theorem map_raw_operandWords (operands : List String) :
    ((operandWords operands).filter (·.sense = .operand)).map (·.raw) = operands := by
  rw [operandWords, List.filter_eq_self.2 (by simp), List.map_map]
  exact List.map_id operands

/-- Options that are read to their end do not begin with operands. -/
theorem no_operand_of_readOptions {words : List Word} {given : Given}
    (all : readOptions table words = .ok (given, [])) :
    words.takeWhile Word.isOperand = [] ∧ words.dropWhile Word.isOperand = words := by
  rcases words with _ | ⟨word, words⟩
  · exact ⟨rfl, rfl⟩
  · have notOperand : word.isOperand = false := by
      rw [readOptions] at all
      cases sense : word.sense <;> rw [sense] at all <;> simp_all [Word.isOperand]
    simp [notOperand]

/-- Options are read no further than to the first operand. -/
theorem readOptions_operandWords (operands : List String) {words : List Word} {given : Given}
    (all : readOptions table words = .ok (given, [])) :
    ∃ before behind rest,
      readOptions table (operandWords operands ++ words) = .ok (before, rest) ∧
      readOptions table (rest.dropWhile Word.isOperand) = .ok (behind, []) ∧
      before.append behind = given ∧ rest.takeWhile Word.isOperand = operandWords operands := by
  obtain ⟨taken, dropped⟩ := no_operand_of_readOptions all
  -- Without operands all options stand in front of them, otherwise all stand behind.
  rcases operands with _ | ⟨first, others⟩
  · exact ⟨given, {}, [], all, rfl, by simp [Given.append], rfl⟩
  · refine ⟨{}, given, operandWords (first :: others) ++ words, rfl, ?_, by simp [Given.append], ?_⟩
    · rw [List.dropWhile_append_of_pos isOperand_of_mem_operandWords, dropped, all]
    · rw [List.takeWhile_append_of_pos isOperand_of_mem_operandWords, taken, List.append_nil]

/-- Operands may stand together in front of all options. -/
theorem optionsAndOperands_append {operands options : List String} {words : List Word}
    {given : Given} (noDash : ∀ word ∈ operands, word.toList.head? ≠ some '-')
    (read : wordsOf table options = .ok words) (all : readOptions table words = .ok (given, [])) :
    optionsAndOperands table (operands ++ options) = .ok (given, operands) := by
  obtain ⟨before, behind, rest, front, back, both, taken⟩ := readOptions_operandWords operands all
  simp only [optionsAndOperands, wordsOf_append_of_noDash noDash read, Except.bind, front, back,
    taken, map_raw_operandWords, both, List.isEmpty_nil, if_true]

end Words

/-! ## Batches -/

/-- The words on the command line of a batch that name its file, or none if it has no file. A name
that looks like an option has to be joined. -/
inductive NamesFile : Option String → List String → Prop
  | unnamed : NamesFile none []
  | apart {name path : String} (known : name ∈ ["--file", "-f"])
      (noDash : path.toList.head? ≠ some '-') : NamesFile (some path) [name, path]
  | joined (path : String) : NamesFile (some path) [assigned "--file" path]

/-- The switch that lets faults of a batch show in the exit code. -/
def strictSwitch (strict : Bool) : List String :=
  if strict then ["--strict"] else []

/-- The command line of a batch. -/
def batchLine (skip strict : Bool) (expressions fileWords : List String) : List String :=
  skipSwitch skip ++ "batch" :: (expressions ++ (fileWords ++ strictSwitch strict))

/-- None of the words of a batch is refused before the command reads it. -/
theorem exists_senseOf_batch {file : Option String} {expressions fileWords : List String}
    (noDash : ∀ expression ∈ expressions, expression.toList.head? ≠ some '-')
    (names : NamesFile file fileWords) (strict : Bool) :
    ∀ word ∈ expressions ++ (fileWords ++ strictSwitch strict),
      ∃ sense, senseOf globalTable word = .ok sense := by
  rw [List.forall_mem_append, List.forall_mem_append]
  refine ⟨fun word hword => ⟨.operand, senseOf_of_noDash (noDash word hword)⟩, ?_, ?_⟩
  · cases names with
    | unnamed => simp
    | @apart name path known noDash =>
      have option : ∀ name ∈ ["--file", "-f"], senseOf globalTable name = .ok .unknown := by
        decide +kernel
      simp [option name known, senseOf_of_noDash noDash]
    | joined path =>
      have long : "--file".toList = '-' :: '-' :: "file".toList := by decide
      simpa using exists_senseOf_assigned (by decide) long (by decide) (by decide) path
  · have switch : senseOf globalTable "--strict" = .ok .unknown := by decide +kernel
    cases strict <;> simp [strictSwitch, switch]

theorem readOptions_strictSwitch (strict : Bool) :
    ∃ words, wordsOf batchTable (strictSwitch strict) = .ok words ∧
      readOptions batchTable words =
        .ok ({ switches := if strict then [.strict] else [] }, []) := by
  cases strict with
  | false => exact ⟨[], rfl, rfl⟩
  | true =>
    exact ⟨[{ raw := "--strict", sense := .option (.switch .strict) true none }],
      by decide +kernel, rfl⟩

/-- The words that name a file give its name in front of the values of other options. -/
theorem NamesFile.readOptions_append {file : Option String} {fileWords options : List String}
    (names : NamesFile file fileWords) {words : List Word} {given : Given}
    (read : wordsOf batchTable options = .ok words)
    (all : readOptions batchTable words = .ok (given, [])) :
    ∃ more, wordsOf batchTable (fileWords ++ options) = .ok more ∧
      readOptions batchTable more =
        .ok ({ given with values := file.toList.map (Parameter.file, ·) ++ given.values }, []) := by
  cases names with
  | unnamed => exact ⟨words, read, all⟩
  | @apart name path known noDash =>
    have option : ∀ name ∈ ["--file", "-f"], name ≠ "--" ∧ ∃ long,
        senseOf batchTable name = .ok (.option (.parameter .file) long none) := by decide +kernel
    obtain ⟨notSeparator, long, sense⟩ := option name known
    refine ⟨{ raw := name, sense := .option (.parameter .file) long none } ::
      { raw := path, sense := .operand } :: words, ?_, ?_⟩
    · simp [wordsOf, notSeparator, sense, ne_separator_of_noDash noDash, senseOf_of_noDash noDash,
        read]
    · simp [readOptions, expand, alone, all, Except.map, Given.append, Given.ofValue]
  | joined path =>
    have long : "--file".toList = '-' :: '-' :: "file".toList := by decide
    exact readOptions_assigned_cons (by decide) long (by decide) (by decide) path read all

/-- A batch has the expressions, the file and the strictness that its command line gives. -/
theorem ofArguments_batchLine {file : Option String} {expressions fileWords : List String}
    (noDash : ∀ expression ∈ expressions, expression.toList.head? ≠ some '-')
    (names : NamesFile file fileWords) (skip strict : Bool) :
    Invocation.ofArguments (batchLine skip strict expressions fileWords) =
      .ok { skipWhitespace := skip, task := .batch expressions file strict } := by
  obtain ⟨globalWords, globally⟩ := exists_wordsOf (exists_senseOf_batch noDash names strict)
  obtain ⟨switchWords, readSwitch, allSwitch⟩ := readOptions_strictSwitch strict
  obtain ⟨words, read, all⟩ := names.readOptions_append readSwitch allSwitch
  have task : taskOf "batch" (expressions ++ (fileWords ++ strictSwitch strict)) =
      .ok (.batch expressions file strict) := by
    rw [taskOf, optionsAndOperands_append noDash read all]
    cases file <;> cases strict <;> rfl
  rw [batchLine, ofArguments_command (by decide +kernel) (by decide) globally, task]
  rfl

/-- A text that is written in UTF-8 is read back. -/
theorem decode?_toUTF8 (contents : String) : decode? contents.toUTF8 = .ok contents := by
  have valid : contents.toByteArray.IsValidUTF8 := contents.isValidUTF8
  have decoded : String.fromUTF8? contents.toByteArray = some contents := dif_pos valid
  rw [String.toUTF8_eq_toByteArray, decode?, decoded]

/-- A batch takes the expressions that its file spells as if they stood behind those that are
given. -/
theorem batchExpressions_of_spells {world : Surroundings} {given written : List String}
    {path contents : String} (named : path ≠ "") (noNull : '\x00' ∉ path.toList)
    (found : world.file path = .contents contents.toUTF8)
    (spells : Spells contents.toList written)
    (plain : ∀ expression ∈ written, IsPlain expression) :
    batchExpressions world given (some path) = batchExpressions world (given ++ written) none := by
  have isNamed : nonempty? (some path) = some path := by simp [nonempty?, named]
  have unnamed : nonempty? none = none := rfl
  have read : fileExpressions world path = .ok written := by
    rw [fileExpressions_of_contents noNull found (decode?_toUTF8 contents),
      expressionsOf_spells spells plain]
  simp only [batchExpressions, isNamed, unnamed, read, Except.bind, List.append_nil]

/-- All that a batch does depends on its expressions, not on where it has them from. -/
theorem run_batch_congr {world : Surroundings} {given more : List String}
    {file other : Option String}
    (same : batchExpressions world given file = batchExpressions world more other)
    (skip strict : Bool) :
    ({ skipWhitespace := skip, task := .batch given file strict } : Invocation).run world =
      ({ skipWhitespace := skip, task := .batch more other strict } : Invocation).run world := by
  have task (rank : Nat) :
      ({ skipWhitespace := skip, task := .batch given file strict } : Invocation).runTask world
          rank =
        ({ skipWhitespace := skip, task := .batch more other strict } : Invocation).runTask world
          rank := by
    simp only [Invocation.runTask, Invocation.onExpressions, same]
    rfl
  simp only [Invocation.run, task]
  rfl

/-! ## Single expressions -/

/-- All that a command does depends on its expression, not on where it has it from. -/
theorem TakesText.run_congr {command : String} {switches : List String}
    {task : Option String → Task} (takes : TakesText command switches task) {world : Surroundings}
    {input : String} {text other : Option String}
    (same : (nonempty? text).or ({ world with input } : Surroundings).inputExpression? =
      (nonempty? other).or world.inputExpression?) (skip : Bool) :
    ({ skipWhitespace := skip, task := task text } : Invocation).run { world with input } =
      ({ skipWhitespace := skip, task := task other } : Invocation).run world := by
  -- Settings and severity do not depend on the input.
  have runTask (rank : Nat) :
      ({ skipWhitespace := skip, task := task text } : Invocation).runTask { world with input }
          rank =
        ({ skipWhitespace := skip, task := task other } : Invocation).runTask world rank := by
    cases takes <;> simp only [Invocation.runTask, Invocation.onExpression, same] <;> rfl
  simp only [Invocation.run, runTask]
  rfl

/-- An expression is found at the input between any blanks. -/
theorem inputExpression?_padded {expression : String} {before after : List Char}
    (plain : IsPlain expression) (front : ∀ c ∈ before, Text.isBlank c = true)
    (back : ∀ c ∈ after, Text.isBlank c = true) (world : Surroundings) :
    ({ world with input := String.ofList (before ++ expression.toList ++ after) } :
      Surroundings).inputExpression? = some expression := by
  have trimmed : Text.trim (String.ofList (before ++ expression.toList ++ after)) = expression := by
    rw [← String.toList_inj, Text.toList_trim, String.toList_ofList,
      Text.trimBy_padded plain.trimmed front back]
  rw [Surroundings.inputExpression?, trimmed]
  exact if_neg plain.notEmpty

/-! ## The ways in comparison -/

/-- Expressions in a file have the outcome of those that stand behind the given ones. -/
theorem exists_carryOut_batchLine {world : Surroundings} {given written fileWords : List String}
    {path contents : String} (plain : ∀ expression ∈ given ++ written, IsPlain expression)
    (names : NamesFile (some path) fileWords) (named : path ≠ "") (noNull : '\x00' ∉ path.toList)
    (found : world.file path = .contents contents.toUTF8)
    (spells : Spells contents.toList written) (skip strict : Bool) :
    ∃ outcome, carryOut world (batchLine skip strict given fileWords) = .ok outcome ∧
      carryOut world (batchLine skip strict (given ++ written) []) = .ok outcome := by
  have noDash : ∀ expression ∈ given ++ written, expression.toList.head? ≠ some '-' :=
    fun expression mem => (plain expression mem).noDash
  have onLine := ofArguments_batchLine noDash .unnamed skip strict
  rw [List.forall_mem_append] at plain noDash
  have inFile := ofArguments_batchLine noDash.1 names skip strict
  have same : batchExpressions world given (some path) =
      batchExpressions world (given ++ written) none :=
    batchExpressions_of_spells named noNull found spells plain.2
  refine ⟨_, by rw [carryOut, inFile, Except.map], ?_⟩
  rw [carryOut, onLine, run_batch_congr same]
  rfl

/-- An expression at the input has the outcome of one that is given. -/
theorem TakesText.exists_carryOut {command : String} {switches : List String}
    {task : Option String → Task} (takes : TakesText command switches task) {expression : String}
    {before after : List Char} (plain : IsPlain expression)
    (front : ∀ c ∈ before, Text.isBlank c = true) (back : ∀ c ∈ after, Text.isBlank c = true)
    (world : Surroundings) (skip : Bool) :
    ∃ outcome,
      carryOut { world with input := String.ofList (before ++ expression.toList ++ after) }
          (textLine skip command none switches) = .ok outcome ∧
        carryOut world (textLine skip command (some expression) switches) = .ok outcome := by
  have given : nonempty? (some expression) = some expression := by
    simp [nonempty?, plain.notEmpty]
  -- The input is only looked at if no expression is given.
  have same : (nonempty? none).or
      ({ world with input := String.ofList (before ++ expression.toList ++ after) } :
        Surroundings).inputExpression? =
      (nonempty? (some expression)).or world.inputExpression? := by
    rw [inputExpression?_padded plain front back, given]
    rfl
  refine ⟨_, by rw [carryOut, takes.ofArguments, Except.map], ?_⟩
  rw [carryOut, takes.ofArguments, takes.run_congr same]
  rfl

/-- It does not matter which way expressions take. Those that a file of a batch spells, however it
does so, have the outcome of the same ones on the command line, behind the ones that are given there
anyway. One that stands at the input, with any blanks around it, has the outcome of the same one
behind `--text=`. -/
theorem channels_agree (world : Surroundings) (skip : Bool) :
    (∀ (strict : Bool) (given written fileWords : List String) (path contents : String),
      (∀ expression ∈ given ++ written, IsPlain expression) →
      NamesFile (some path) fileWords → path ≠ "" → '\x00' ∉ path.toList →
      world.file path = .contents contents.toUTF8 → Spells contents.toList written →
      ∃ outcome, carryOut world (batchLine skip strict given fileWords) = .ok outcome ∧
        carryOut world (batchLine skip strict (given ++ written) []) = .ok outcome) ∧
      ∀ (command : String) (switches : List String) (task : Option String → Task)
        (expression : String) (before after : List Char),
        TakesText command switches task → IsPlain expression →
        (∀ c ∈ before, Text.isBlank c = true) → (∀ c ∈ after, Text.isBlank c = true) →
        ∃ outcome,
          carryOut { world with input := String.ofList (before ++ expression.toList ++ after) }
              (textLine skip command none switches) = .ok outcome ∧
            carryOut world (textLine skip command (some expression) switches) = .ok outcome :=
  ⟨fun strict _ _ _ _ _ plain names named noNull found spells =>
      exists_carryOut_batchLine plain names named noNull found spells skip strict,
    fun _ _ _ _ _ _ takes plain front back =>
      takes.exists_carryOut plain front back world skip⟩

/-- A file may mix all ends of lines, with blanks that are not in ASCII around expressions and alone
on a line. -/
theorem channels_agree_mixed :
    let contents := "\u00A01+2\u2003\r\n\u2028\n3*4\x0b\r"
    let world : Surroundings :=
      { file := fun path => if path = "list" then .contents contents.toUTF8 else .absent }
    (∃ outcome, carryOut world ["batch", "(5", "--file", "list", "--strict"] = .ok outcome ∧
      carryOut world ["batch", "(5", "1+2", "3*4", "--strict"] = .ok outcome) ∧
      ∃ outcome,
        carryOut { world with input := "\r\n\u30001+2\n" } ["eval", "--steps"] = .ok outcome ∧
          carryOut world ["eval", "--text=1+2", "--steps"] = .ok outcome := by
  intro contents world
  obtain ⟨batches, single⟩ := channels_agree world false
  have lines : contents.toList =
      ['\u00A0'] ++ "1+2".toList ++ ['\u2003'] ++ (Text.LineEnd.both.chars ++
        (['\u2028'] ++ (Text.LineEnd.lineFeed.chars ++
          ([] ++ "3*4".toList ++ ['\x0b'] ++ (Text.LineEnd.carriageReturn.chars ++ []))))) := by
    decide
  have padding : ∀ gap ∈ [['\u00A0'], ['\u2003'], ['\u2028'], ['\x0b'], []], IsPadding gap := by
    decide
  have spells : Spells contents.toList ["1+2", "3*4"] := by
    rw [lines]
    exact .line (.expression "1+2" (padding _ (by simp)) (padding _ (by simp))) .both
      (.line (.blank (padding _ (by simp))) .lineFeed
        (.line (.expression "3*4" (padding _ (by simp)) (padding _ (by simp))) .carriageReturn
          (.last (.blank (padding _ (by simp))))))
  have plain : ∀ expression ∈ ["(5"] ++ ["1+2", "3*4"], IsPlain expression := by decide
  refine ⟨?_, ?_⟩
  · exact batches true ["(5"] ["1+2", "3*4"] ["--file", "list"] "list" contents plain
      (.apart (by simp) (by decide)) (by decide) (by decide) rfl spells
  · exact single "eval" ["--steps"] _ "1+2" ['\r', '\n', '\u3000'] ['\n'] (.steps (by simp))
      (plain "1+2" (by simp)) (List.all_eq_true.1 (by decide)) (List.all_eq_true.1 (by decide))

end ReversePolish.Command
