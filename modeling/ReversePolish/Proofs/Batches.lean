import ReversePolish.Command.Console
import ReversePolish.Proofs.Marks

/-!
# Batches and their summary

The items of a batch are its expressions, each calculated by itself, so that all that is counted and
added up can be said of the expressions. The command shows a row for each of them and then the
summary, but only if there is a value: a sum of nothing is not shown, and the run breaks off where
the summary should stand. All of this is seen if the console draws the table, which it does at least
where no expression has a square bracket in it that could begin a mark.

- `Batch.succeeded_calculate`, `Batch.failed_calculate`, `Batch.values_calculate`: the summary in
  terms of the expressions;
- `Command.FileGives`: the expressions that a file gives;
- `Command.drawsTable_batchTableOf`: which tables are drawn;
- `Command.BatchShown`, `Command.run_batch`: what is seen of a batch, and how it ends.
-/

namespace ReversePolish

namespace Batch

/-! ## Items -/

/-- An item has the value of its expression, or its fault. -/
theorem outcome_item (mode : Scan.Mode) (expression : String) :
    (item mode expression).outcome =
      (ReversePolish.calculate mode expression).map (·.value) :=
  (map_value_calculate mode expression).symm

theorem value?_item (mode : Scan.Mode) (expression : String) :
    (item mode expression).value? =
      (ReversePolish.calculate mode expression).toOption.map (·.value) := by
  rw [Item.value?, outcome_item]
  cases ReversePolish.calculate mode expression <;> rfl

theorem fault?_item (mode : Scan.Mode) (expression : String) :
    (item mode expression).fault? =
      match ReversePolish.calculate mode expression with
      | .ok _ => none
      | .error fault => some fault := by
  rw [Item.fault?, outcome_item]
  cases ReversePolish.calculate mode expression <;> rfl

/-! ## Summaries -/

/-- The values of the expressions that have one, in order. -/
def valuesOf (mode : Scan.Mode) (expressions : List String) : List Float :=
  expressions.filterMap fun expression =>
    (ReversePolish.calculate mode expression).toOption.map (·.value)

theorem values_calculate (mode : Scan.Mode) (expressions : List String) :
    values (calculate mode expressions) = valuesOf mode expressions := by
  rw [values, calculate, List.filterMap_map, valuesOf]
  refine List.filterMap_congr fun expression _ => ?_
  exact value?_item mode expression

theorem succeeded_calculate (mode : Scan.Mode) (expressions : List String) :
    succeeded (calculate mode expressions) =
      expressions.countP fun expression => (ReversePolish.calculate mode expression).isOk := by
  rw [succeeded, calculate, List.countP_map]
  refine List.countP_congr fun expression _ => ?_
  rw [Function.comp_apply, value?_item]
  cases ReversePolish.calculate mode expression <;>
    simp [Except.toOption, Except.isOk, Except.toBool]

theorem failed_calculate (mode : Scan.Mode) (expressions : List String) :
    failed (calculate mode expressions) =
      expressions.countP fun expression => !(ReversePolish.calculate mode expression).isOk := by
  rw [failed, calculate, List.countP_map]
  refine List.countP_congr fun expression _ => ?_
  rw [Function.comp_apply, fault?_item]
  cases ReversePolish.calculate mode expression <;> simp [Except.isOk, Except.toBool]

/-- There are values exactly if an expression has one. -/
theorem valuesOf_ne_nil_iff {mode : Scan.Mode} {expressions : List String} :
    valuesOf mode expressions ≠ [] ↔
      ∃ expression ∈ expressions, (ReversePolish.calculate mode expression).isOk = true := by
  rw [ne_eq, valuesOf, List.filterMap_eq_nil_iff]
  push Not
  refine exists_congr fun expression => and_congr_right fun _ => ?_
  cases ReversePolish.calculate mode expression <;>
    simp [Except.toOption, Except.isOk, Except.toBool]

end Batch

namespace Command

/-! ## The command -/

/-- The expressions that a batch takes from a file: none without a file, or else its lines without
the blanks at their ends, but for empty ones. The file has to be there, and in UTF-8. -/
inductive FileGives (world : Surroundings) : Option String → List String → Prop
  | none {file : Option String} (unnamed : nonempty? file = none) : FileGives world file []
  | lines {file : Option String} {path contents : String} {bytes : ByteArray}
      (named : nonempty? file = some path) (noNull : '\x00' ∉ path.toList)
      (found : world.file path = .contents bytes)
      (decodes : String.fromUTF8? bytes = some contents) :
      FileGives world file (expressionsOf contents)

/-- The expressions of a file that is there, and in UTF-8. -/
theorem fileExpressions_of_contents {world : Surroundings} {path contents : String}
    {bytes : ByteArray} (noNull : '\x00' ∉ path.toList) (found : world.file path = .contents bytes)
    (decodes : decode? bytes = .ok contents) :
    fileExpressions world path = .ok (expressionsOf contents) := by
  rw [fileExpressions, if_neg noNull, found]
  dsimp only
  rw [decodes]

theorem batchExpressions_of_fileGives {world : Surroundings} {file : Option String}
    {given more : List String} (gives : FileGives world file more) (notEmpty : given ++ more ≠ []) :
    batchExpressions world given file = .ok (given ++ more) := by
  have some : ¬ (given ++ more).isEmpty = true := by simpa using notEmpty
  cases gives with
  | none unnamed =>
    rw [batchExpressions, unnamed]
    exact if_neg some
  | @lines path contents bytes named noNull found decodes =>
    have text : decode? bytes = .ok contents := by rw [decode?, decodes]
    rw [batchExpressions, named]
    dsimp only
    rw [fileExpressions_of_contents noNull found text]
    exact if_neg some

/-- The row of an expression: itself, its reverse Polish notation or what is wrong with that, and
its value, or wording and class of its fault. -/
def rowOf (charset : Charset) (mode : Scan.Mode) (expression : String) : List String :=
  let (result, status) :=
    match calculate mode expression with
    | .ok result => (Number.plain result.value, "ok")
    | .error fault => (fault.message, fault.code.name)
  [charset.shown expression, charset.shown (render " " (toPolish mode expression)),
    charset.shown result, status]

/-- The table of a batch has a row for each expression, in order. -/
theorem rows_batchTableOf (charset : Charset) (mode : Scan.Mode) (expressions : List String) :
    (batchTableOf charset (Batch.calculate mode expressions)).rows =
      expressions.map (rowOf charset mode) := by
  rw [batchTableOf, Batch.calculate, List.map_map]
  refine List.map_congr_left fun expression _ => ?_
  rw [Function.comp_apply, Batch.outcome_item, rowOf]
  cases calculate mode expression <;> rfl

/-- A run under settings that are found shows what the command shows of all expressions, and ends
like that. -/
theorem exists_run_batch {invocation : Invocation} {world : Surroundings} {settings : Settings}
    {rank : Nat} {given more : List String} {file : Option String} {strict : Bool}
    (task : invocation.task = .batch given file strict) (found : world.settings = .ok settings)
    (ranked : invocation.rank world = .ok rank) (gives : FileGives world file more)
    (notEmpty : given ++ more ≠ []) :
    ∃ remarks, invocation.run world =
      (showBatch world.charset rank (invocation.mode settings) strict (given ++ more)).after
        remarks := by
  refine ⟨invocation.earlyRemarks world ++ Journal.written rank world.settingsEntries, ?_⟩
  rw [Invocation.run, ranked]
  dsimp only
  rw [Invocation.runTask, task]
  dsimp only
  rw [Invocation.onExpressions, Invocation.underSettings, found]
  dsimp only
  rw [batchExpressions_of_fileGives gives notEmpty]
  simp [Outcome.after, String.append_assoc]

/-- The line under the table: how many expressions have a value and how many have none, and the
values added up from the left. -/
def summaryOf (mode : Scan.Mode) (expressions : List String) : String :=
  "ok: " ++ toString (expressions.countP fun expression => (calculate mode expression).isOk) ++
    "  ko: " ++ toString (expressions.countP fun expression => !(calculate mode expression).isOk) ++
    "  sum: " ++ Number.plain ((Batch.valuesOf mode expressions).foldl (· + ·) 0) ++ "\n"

/-- If an expression has a value, the table and the summary are shown. -/
theorem showBatch_of_accepted {mode : Scan.Mode} {expressions : List String}
    (accepted : ∃ expression ∈ expressions, (calculate mode expression).isOk = true)
    (charset : Charset) (rank : Nat) (strict : Bool) :
    (showBatch charset rank mode strict expressions).shown =
        [.table (batchTableOf charset (Batch.calculate mode expressions)),
          .lines (summaryOf mode expressions)] ∧
      (showBatch charset rank mode strict expressions).ending =
        .exit (if strict = true ∧ ∃ expression ∈ expressions,
          (calculate mode expression).isOk = false then 1 else 0) := by
  -- There is a first value, so that there is a sum.
  obtain ⟨x, xs, values⟩ := List.exists_cons_of_ne_nil (Batch.valuesOf_ne_nil_iff.2 accepted)
  have sum : Batch.sum? (Batch.calculate mode expressions) =
      some ((Batch.valuesOf mode expressions).foldl (· + ·) 0) := by
    rw [Batch.sum?, Batch.values_calculate, values]
  have faulty : Batch.failed (Batch.calculate mode expressions) ≠ 0 ↔
      ∃ expression ∈ expressions, (calculate mode expression).isOk = false := by
    rw [Batch.failed_calculate, ne_eq, List.countP_eq_zero]
    simp
  rw [showBatch, sum]
  refine ⟨?_, ?_⟩
  · simp only [summaryLine, Batch.succeeded_calculate, Batch.failed_calculate, summaryOf]
  · simp only [faulty]

/-- If no expression has one, only the table is shown. -/
theorem showBatch_of_refused {mode : Scan.Mode} {expressions : List String}
    (refused : ∀ expression ∈ expressions, (calculate mode expression).isOk = false)
    (charset : Charset) (rank : Nat) (strict : Bool) :
    (showBatch charset rank mode strict expressions).shown =
        [.table (batchTableOf charset (Batch.calculate mode expressions))] ∧
      (showBatch charset rank mode strict expressions).ending = .brokenOff .nothingToSum := by
  have none : Batch.valuesOf mode expressions = [] := by
    by_contra some
    obtain ⟨expression, mem, accepted⟩ := Batch.valuesOf_ne_nil_iff.1 some
    rw [refused expression mem] at accepted
    cases accepted
  have sum : Batch.sum? (Batch.calculate mode expressions) = Option.none := by
    rw [Batch.sum?, Batch.values_calculate, none]
  rw [showBatch, sum]
  exact ⟨rfl, rfl⟩

/-- The table comes first, and only lines of text follow it, which do not depend on the console. -/
theorem exists_shown_showBatch (charset : Charset) (rank : Nat) (mode : Scan.Mode) (strict : Bool)
    (expressions : List String) :
    ∃ rest, (showBatch charset rank mode strict expressions).shown =
        .table (batchTableOf charset (Batch.calculate mode expressions)) :: rest ∧
      ∀ part ∈ rest, ∀ console : Console, console.shows part = true := by
  rw [showBatch]
  cases Batch.sum? (Batch.calculate mode expressions) with
  | none => exact ⟨[], rfl, List.forall_mem_nil _⟩
  | some sum => exact ⟨[_], rfl, List.forall_mem_singleton.2 fun _ => rfl⟩

/-! ## The console -/

/-- Where everything is drawn, an outcome is what is seen. -/
theorem Console.perform_of_forall_shows {console : Console} (outcome : Outcome)
    (all : ∀ shown ∈ outcome.shown, console.shows shown = true) :
    console.perform outcome =
      { shown := outcome.shown, remarks := outcome.remarks, finale := .ended outcome.ending } := by
  rw [perform, List.takeWhile_eq_self_iff.2 all, List.dropWhile_eq_nil_iff.2 all]

/-- Where the first thing is refused, nothing is shown. -/
theorem Console.perform_of_refused {console : Console} (outcome : Outcome) {first : Shown}
    {rest : List Shown} (shown : outcome.shown = first :: rest)
    (refuses : console.shows first = false) :
    console.perform outcome =
      { shown := [], remarks := outcome.remarks, finale := .refused first } := by
  have notShown : ¬ console.shows first = true := by simp [refuses]
  rw [perform, shown, List.takeWhile_cons_of_neg notShown, List.dropWhile_cons_of_neg notShown]

/-- The row of an expression without marks has none. -/
theorem unmarked_of_mem_rowOf {mode : Scan.Mode} {expression : String} (h : Unmarked expression)
    (charset : Charset) {cell : String} (isCell : cell ∈ rowOf charset mode expression) :
    Unmarked cell := by
  have polish := unmarked_render (tokensUnmarked_toPolish h mode)
  rw [rowOf] at isCell
  cases outcome : calculate mode expression with
  | ok result =>
    rw [outcome] at isCell
    simp only [List.mem_cons, List.not_mem_nil, or_false] at isCell
    obtain rfl | rfl | rfl | rfl := isCell
    · exact unmarked_shown h charset
    · exact unmarked_shown polish charset
    · exact unmarked_shown (unmarked_plain result.value) charset
    · decide
  | error fault =>
    have message := Fault.unmarked_message (isUnmarked_of_calculate h outcome)
    rw [outcome] at isCell
    simp only [List.mem_cons, List.not_mem_nil, or_false] at isCell
    obtain rfl | rfl | rfl | rfl := isCell
    · exact unmarked_shown h charset
    · exact unmarked_shown polish charset
    · exact unmarked_shown message charset
    · exact fault.code.unmarked_name

/-- The title of a batch holds nothing but words and counts. -/
theorem slash_notMem_title_batchTableOf (charset : Charset) (items : List Batch.Item) :
    '/' ∉ (batchTableOf charset items).title.toList := by
  have count : ∀ n : Nat, '/' ∉ (toString n).toList := by
    intro n mem
    rw [Nat.toString_eq_repr, Nat.toList_repr] at mem
    exact absurd (Nat.isDigit_of_mem_toDigits (by decide) (by decide) mem) (by decide)
  simp only [batchTableOf, String.toList_append, List.mem_append, count, or_false, not_or]
  decide

/-- The table of a batch without marks is drawn. -/
theorem drawsTable_batchTableOf {console : Console} (draws : console.DrawsUnmarked)
    {expressions : List String} (h : ∀ expression ∈ expressions, Unmarked expression)
    (charset : Charset) (mode : Scan.Mode) :
    console.drawsTable (batchTableOf charset (Batch.calculate mode expressions)) = true := by
  have heads : ∀ head ∈ ["Expression", "Postfix", "Result", "Status"], '[' ∉ head.toList := by
    decide
  refine draws.table _ (slash_notMem_title_batchTableOf charset _) heads ?_
  rw [rows_batchTableOf, List.forall_mem_map]
  exact fun expression mem cell => unmarked_of_mem_rowOf (h expression mem) charset

/-- What is seen of a batch whose table is drawn. If an expression has a value, the summary follows,
and the exit code tells of a fault if that is wanted. If none has one, the run breaks off
instead. -/
structure BatchShown (mode : Scan.Mode) (strict : Bool) (expressions : List String) (table : Table)
    (performance : Performance) : Prop where
  summed : (∃ expression ∈ expressions, (calculate mode expression).isOk = true) →
    performance.shown = [.table table, .lines (summaryOf mode expressions)] ∧
      performance.finale = .ended (.exit (if strict = true ∧ ∃ expression ∈ expressions,
        (calculate mode expression).isOk = false then 1 else 0))
  brokenOff : (∀ expression ∈ expressions, (calculate mode expression).isOk = false) →
    performance.shown = [.table table] ∧
      performance.finale = .ended (.brokenOff .nothingToSum)

/-- A batch shows a table with a row for each expression, in order, and then its summary, but breaks
off instead if no expression has a value. So it is seen at every console that draws the table, as
one that minds marks only does where no expression has any. Where the table is refused, nothing is
shown. -/
theorem run_batch {invocation : Invocation} {world : Surroundings} {settings : Settings}
    {rank : Nat} {given more : List String} {file : Option String} {strict : Bool}
    (console : Console) (task : invocation.task = .batch given file strict)
    (found : world.settings = .ok settings) (ranked : invocation.rank world = .ok rank)
    (gives : FileGives world file more) (notEmpty : given ++ more ≠ []) :
    ∃ table : Table,
      table.rows = (given ++ more).map (rowOf world.charset (invocation.mode settings)) ∧
      (console.DrawsUnmarked → (∀ expression ∈ given ++ more, '[' ∉ expression.toList) →
        console.drawsTable table = true) ∧
      (console.drawsTable table = true →
        BatchShown (invocation.mode settings) strict (given ++ more) table
          (console.perform (invocation.run world))) ∧
      (console.drawsTable table = false →
        (console.perform (invocation.run world)).shown = [] ∧
          (console.perform (invocation.run world)).finale = .refused (.table table)) := by
  obtain ⟨remarks, run⟩ := exists_run_batch task found ranked gives notEmpty
  -- From here on only the mode and the list of expressions matter.
  generalize invocation.mode settings = mode at run
  generalize given ++ more = expressions at run
  obtain ⟨rest, shown, lines⟩ :=
    exists_shown_showBatch world.charset rank mode strict expressions
  rw [run]
  refine ⟨batchTableOf world.charset (Batch.calculate mode expressions), rows_batchTableOf ..,
    fun draws unmarked => drawsTable_batchTableOf draws unmarked _ _, fun drawn => ?_,
    fun undrawn => ?_⟩
  · have all : ∀ part ∈ (showBatch world.charset rank mode strict expressions).shown,
        console.shows part = true := by
      rw [shown, List.forall_mem_cons]
      exact ⟨drawn, fun part mem => lines part mem console⟩
    rw [Console.perform_of_forall_shows (Outcome.after remarks _) all]
    refine ⟨fun accepted => ?_, fun refused => ?_⟩
    · obtain ⟨parts, ending⟩ := showBatch_of_accepted accepted world.charset rank strict
      exact ⟨parts, congrArg Finale.ended ending⟩
    · obtain ⟨parts, ending⟩ := showBatch_of_refused refused world.charset rank strict
      exact ⟨parts, congrArg Finale.ended ending⟩
  · rw [Console.perform_of_refused (Outcome.after remarks _) shown undrawn]
    exact ⟨rfl, rfl⟩

/-- An expression with a value may come from a file, beside one that is faulty. Neither has a mark,
so that even the wariest console draws the table. -/
theorem run_batch_file :
    Console.wary.DrawsUnmarked ∧
      (Console.wary.perform (({ task := .batch ["("] (some "list") true } : Invocation).run
        { file := fun path =>
            if path = "list" then .contents "12\n".toUTF8 else .absent })).finale =
        .ended (.exit 1) := by
  have named : nonempty? (some "list") = some "list" := by decide
  have decodes : String.fromUTF8? "12\n".toUTF8 = some "12\n" := by decide +kernel
  have lines : expressionsOf "12\n" = ["12"] := by decide +kernel
  have gives : FileGives { file := fun path =>
      if path = "list" then .contents "12\n".toUTF8 else .absent } (some "list")
      (expressionsOf "12\n") := .lines named (by decide) rfl decodes
  rw [lines] at gives
  have found : ({ file := fun path =>
      if path = "list" then .contents "12\n".toUTF8 else .absent } : Surroundings).settings =
      .ok {} := by rfl
  have accepted : (calculate {} "12").isOk = true := by decide +kernel
  have refused : (calculate {} "(").isOk = false := by decide +kernel
  have task : ({ task := .batch ["("] (some "list") true } : Invocation).task =
      .batch ["("] (some "list") true := rfl
  obtain ⟨table, -, draws, shows, -⟩ := run_batch Console.wary task found rfl gives (by simp)
  have drawn := draws Console.drawsUnmarked_wary (by decide)
  refine ⟨Console.drawsUnmarked_wary, ?_⟩
  rw [((shows drawn).summed ⟨"12", by simp, accepted⟩).2]
  exact congrArg (Finale.ended ∘ Ending.exit) (if_pos ⟨rfl, "(", by simp, refused⟩)

/-- An expression that closes a mark hides even the row of one that has a value. -/
example :
    (Console.wary.perform
      (({ task := .batch ["1", "[/x]"] none false } : Invocation).run {})).shown = [] := by
  decide +kernel

/-- Not every batch comes to its summary, even where all is drawn: a single left parenthesis makes
the run break off. -/
theorem not_forall_exits_of_batch :
    ¬ ∀ (console : Console) (invocation : Invocation) (world : Surroundings) (settings : Settings)
        (rank : Nat) (given more : List String) (file : Option String) (strict : Bool),
        (∀ table, console.drawsTable table = true) →
        invocation.task = .batch given file strict → world.settings = .ok settings →
        invocation.rank world = .ok rank → FileGives world file more → given ++ more ≠ [] →
        ∃ code, (console.perform (invocation.run world)).finale = .ended (.exit code) := by
  intro exits
  obtain ⟨code, finale⟩ := exits .plain { task := .batch ["("] none false } {} {} 20 ["("] [] none
    false (fun _ => rfl) rfl rfl rfl (.none rfl) (by simp)
  have broken : (Console.plain.perform
      (({ task := .batch ["("] none false } : Invocation).run {})).finale =
      .ended (.brokenOff .nothingToSum) := by decide +kernel
  rw [broken] at finale
  cases finale

end Command

end ReversePolish
