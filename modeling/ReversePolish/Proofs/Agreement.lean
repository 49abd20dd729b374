import ReversePolish.Proofs.Answering
import ReversePolish.Proofs.Batches
import ReversePolish.Proofs.Invoking
import ReversePolish.Proofs.Strictness

/-!
# Agreement of command line and service

An expression can be calculated by a command, by a request, or as an item of a batch that is
requested, and it can be converted by a command and by a request. Under the same settings all of
them tell the same.

- `ValueShown`, `FaultShown`: what the three show of a value, and of a fault;
- `ConversionShown`: what the two show of a conversion, beside a calculation;
- `front_ends_agree`: so it is for every expression within the greatest length.
-/

namespace ReversePolish

open Command Service

/-! ## The commands -/

/-- What a command shows of an expression that is calculated. -/
def valueLine (text : String) (result : Calculation) : String :=
  text ++ " => " ++ spaced result.polish ++ " => " ++ Number.plain result.value ++ "\n"

theorem toPolish_of_calculate {mode : Scan.Mode} {text : String} {result : Calculation}
    (calculates : calculate mode text = .ok result) :
    toPolish mode text = .ok result.polish := by
  rw [calculate, bind_eq_ok_iff] at calculates
  obtain ⟨polish, converts, evaluates⟩ := calculates
  obtain ⟨value, -, rfl⟩ := map_eq_ok_iff.1 evaluates
  exact converts

theorem showValue_of_ok {mode : Scan.Mode} {text : String} {result : Calculation}
    (calculates : calculate mode text = .ok result) (rank : Nat) :
    showValue rank mode false text =
      { shown := [.lines (valueLine text result)], ending := .exit 0 } := by
  rw [showValue, calculates, toPolish_of_calculate calculates]
  simp [valueLine, spaced]

/-- A fault is not logged by default, whether it is found once or twice. -/
theorem showValue_of_error {mode : Scan.Mode} {text : String} {fault : Fault}
    (refused : calculate mode text = .error fault) :
    showValue standardRank mode false text =
      .failure (text ++ " => " ++ render " " (toPolish mode text) ++ " => " ++
        "cannot simulate: " ++ fault.message ++ " [" ++ fault.code.name ++ "]") := by
  -- The conversion is carried out twice, so that its fault is remarked on twice.
  have quiet : Journal.written standardRank (if (toPolish mode text).isOk then
      Journal.ofFault fault else Journal.ofFault fault ++ Journal.ofFault fault) = "" := by
    split
    · exact written_ofFault fault
    · rw [written_append, written_ofFault, String.append_empty]
  rw [showValue, refused]
  dsimp only
  rw [quiet]
  simp [Outcome.after, String.append_assoc]

/-- The exit code of a conversion tells whether there is a result. -/
theorem ending_showPolish (rank : Nat) (mode : Scan.Mode) (text : String) :
    (showPolish rank mode text).ending = .exit (if (toPolish mode text).isOk then 0 else 1) := by
  rw [showPolish]
  cases toPolish mode text <;> rfl

/-! ## The service -/

/-- The items of a batch that is asked for are those of its expressions, in order. -/
theorem exists_items_of_batch {settings : Settings} {before after : List String} {text : String}
    (short : ∀ expression ∈ before ++ text :: after,
      (expression.length : Int) ≤ settings.maxExpressionLength) :
    ∃ answer items,
      respond settings (posting .evaluateBatch
        [("expressions", .list ((before ++ text :: after).map .text))]) = .ok answer ∧
      answer.status = 200 ∧ answer.field? "items" = some (.list items) ∧
      items[before.length]? = some (itemDatum (Batch.item settings.mode text)) := by
  have answered : answer settings (some (.record [("expressions",
      .list ((before ++ text :: after).map .text))])) .evaluateBatch =
      evaluateBatch settings (before ++ text :: after) :=
    answer_evaluateBatch (by simp) (by simp)
  refine ⟨evaluateBatch settings (before ++ text :: after),
    (Batch.calculate settings.mode (before ++ text :: after)).map itemDatum, ?_, ?_, ?_, ?_⟩
  · rw [respond_posting (by decide), answered]
  · rw [evaluateBatch_of_short short]
    rfl
  · rw [evaluateBatch_of_short short]
    rfl
  · simp [Batch.calculate]

/-! ## Agreement -/

/-- A value is shown by a command in a single line, by the answer to a request, and by the item of a
batch. As a number it is only given if it is finite, but it is always written out. -/
structure ValueShown (text : String) (result : Calculation) (outcome : Outcome) (answer : Response)
    (item : Datum) : Prop where
  ending : outcome.ending = .exit 0
  shown : outcome.shown = [.lines (valueLine text result)]
  status : answer.status = 200
  polish : answer.field? "postfix" = some (.text (spaced result.polish))
  display : answer.field? "display" = some (.text (Number.plain result.value))
  value : ∃ value, answer.field? "value" = some value ∧ item.field? "value" = some value ∧
    (value = .null ∨ value = .real result.value) ∧
    (value = .null ↔ (Magnitude.ofFloat result.value).isFinite = false)
  itemPolish : item.field? "postfix" = some (.text (spaced result.polish))
  itemDisplay : item.field? "display" = some (.text (Number.plain result.value))
  itemError : item.field? "error" = some .null

/-- A fault is shown by a command in the last line of its remarks, by the answer to a request, and
by the item of a batch. -/
structure FaultShown (diagnosis : Diagnosis) (outcome : Outcome) (answer : Response)
    (item : Datum) : Prop where
  ending : outcome.ending = .exit 1
  shown : outcome.shown = []
  remarks : ∃ front, outcome.remarks =
    front ++ (" => cannot simulate: " ++ diagnosis.message ++ " [" ++ diagnosis.code.name ++ "]\n")
  status : answer.status = 422
  detail : answer.field? "detail" = some (.text diagnosis.message)
  code : answer.field? "code" = some (.text diagnosis.code.name)
  itemError : item.field? "error" = some diagnosis.toDatum
  itemValue : item.field? "value" = some .null
  itemDisplay : item.field? "display" = some .null

/-- A conversion is always answered. It is valid exactly if the command succeeds, and what is wrong
with it otherwise is what the request for the value is refused with. -/
structure ConversionShown (outcome : Outcome) (answer evaluated : Response) : Prop where
  status : answer.status = 200
  valid : ∃ valid, answer.field? "valid" = some (.bool valid) ∧
    outcome.ending = .exit (if valid then 0 else 1) ∧
    (valid = true → answer.field? "error" = some .null) ∧
    (valid = false → ∃ diagnosis : Diagnosis, answer.field? "error" = some diagnosis.toDatum ∧
      evaluated.status = 422 ∧ evaluated.field? "detail" = some (.text diagnosis.message) ∧
      evaluated.field? "code" = some (.text diagnosis.code.name))

theorem valueShown {settings : Settings} {text : String} {result : Calculation}
    (calculates : calculate settings.mode text = .ok result) (remarks : String) :
    ValueShown text result ((showValue standardRank settings.mode false text).after remarks)
      (Service.evaluate settings text) (itemDatum (Batch.item settings.mode text)) := by
  have shown := showValue_of_ok calculates standardRank
  have answered : Service.evaluate settings text = good [
      ("expression", .text text),
      ("postfix", .text (spaced result.polish)),
      ("value", finiteDatum result.value),
      ("display", .text (Number.plain result.value)),
      ("steps", Datum.ofList (fun step => .text step.text) result.steps)] := by
    rw [Service.evaluate, calculates]
  have item : itemDatum (Batch.item settings.mode text) = .record [
      ("expression", .text text),
      ("postfix", .text (spaced result.polish)),
      ("value", finiteDatum result.value),
      ("display", .text (Number.plain result.value)),
      ("error", .null)] := by
    rw [itemDatum, Batch.value?_item, Batch.fault?_item, calculates, Batch.item,
      toPolish_of_calculate calculates]
    rfl
  rw [shown, answered, item]
  obtain ⟨cases, null⟩ := finiteDatum_cases result.value
  exact ⟨rfl, rfl, rfl, rfl, rfl, ⟨_, rfl, rfl, cases, null⟩, rfl, rfl, rfl⟩

theorem faultShown {settings : Settings} {text : String} {fault : Fault}
    (refused : calculate settings.mode text = .error fault) (remarks : String) :
    FaultShown fault.diagnosis ((showValue standardRank settings.mode false text).after remarks)
      (Service.evaluate settings text) (itemDatum (Batch.item settings.mode text)) := by
  have answered : Service.evaluate settings text = badExpression fault := by
    rw [Service.evaluate, refused]
  have item : itemDatum (Batch.item settings.mode text) = .record [
      ("expression", .text text),
      ("postfix", .text (render " " (toPolish settings.mode text))),
      ("value", .null),
      ("display", .null),
      ("error", fault.diagnosis.toDatum)] := by
    rw [itemDatum, Batch.value?_item, Batch.fault?_item, refused, Batch.item]
    rfl
  rw [showValue_of_error refused, answered, item]
  refine ⟨rfl, rfl, ?_, rfl, rfl, rfl, rfl, rfl, rfl⟩
  refine ⟨remarks ++ (text ++ " => " ++ render " " (toPolish settings.mode text)), ?_⟩
  simp [Outcome.after, Outcome.failure, Fault.diagnosis, String.append_assoc]

theorem conversionShown (settings : Settings) (text remarks : String) :
    ConversionShown ((showPolish standardRank settings.mode text).after remarks)
      (Service.convert settings text) (Service.evaluate settings text) := by
  refine ⟨rfl, (toPolish settings.mode text).isOk, rfl, ending_showPolish _ _ _, fun valid => ?_,
    fun invalid => ?_⟩
  · cases converts : toPolish settings.mode text with
    | error fault =>
      rw [converts] at valid
      cases valid
    | ok polish =>
      rw [Service.convert, converts]
      rfl
  · cases converts : toPolish settings.mode text with
    | ok polish =>
      rw [converts] at invalid
      cases invalid
    | error fault =>
      -- The calculation goes no further than the conversion.
      have answered : Service.evaluate settings text = badExpression fault := by
        rw [Service.evaluate, calculate_of_toPolish_eq_error converts]
      rw [Service.convert, converts, answered]
      exact ⟨fault.diagnosis, rfl, rfl, rfl, rfl⟩

/-- Under the same settings and the severity that is logged by default, command line and service
agree on every expression within the greatest length: on its value, wherever it stands in a batch,
on what is wrong with it, and on its conversion. And whoever asks for what the service is there for,
with expressions of any length, never finds it at fault: the answer is good or refuses an
expression. -/
theorem front_ends_agree {world : Surroundings} {cli app : Settings}
    (found : world.settings = .ok cli) (level : cli.logLevel = "INFO") {skip : Bool}
    (sameSkip : app.skipWhitespace = (cli.skipWhitespace || skip))
    (sameStrict : app.strictTokenizer = cli.strictTokenizer) {text : String} (notEmpty : text ≠ "")
    {before after : List String}
    (short : ∀ expression ∈ before ++ text :: after,
      (expression.length : Int) ≤ app.maxExpressionLength) :
    ∃ evalOutcome polishOutcome evaluated converted batch items item,
      carryOut world (commandLine skip "eval" text) = .ok evalOutcome ∧
      carryOut world (commandLine skip "postfix" text) = .ok polishOutcome ∧
      respond app (posting .evaluate [("expression", .text text)]) = .ok evaluated ∧
      respond app (posting .convert [("expression", .text text)]) = .ok converted ∧
      respond app (posting .evaluateBatch
        [("expressions", .list ((before ++ text :: after).map .text))]) = .ok batch ∧
      batch.status = 200 ∧ batch.field? "items" = some (.list items) ∧
      items[before.length]? = some item ∧
      (∀ result, calculate app.mode text = .ok result →
        ValueShown text result evalOutcome evaluated item) ∧
      (∀ fault, calculate app.mode text = .error fault →
        FaultShown fault.diagnosis evalOutcome evaluated item) ∧
      ConversionShown polishOutcome converted evaluated ∧
      ∀ request, Asks request →
        ∃ response, respond app request = .ok response ∧ response.status ∈ [200, 422] := by
  -- Both sides scan in the same mode, so that they work on the same calculation.
  have mode : scanMode cli skip = app.mode := by
    rw [scanMode, Settings.mode, sameSkip, sameStrict]
  have fits : (text.length : Int) ≤ app.maxExpressionLength := short text (by simp)
  have asked : ∀ command : Settings → String → Response,
      onExpression app (some (.record [("expression", .text text)])) command = command app text :=
    onExpression_of_lookup (by simp) notEmpty fits
  obtain ⟨batch, items, answered, status, listed, item⟩ := exists_items_of_batch short
  refine ⟨_, _, Service.evaluate app text, Service.convert app text, batch, items, _,
    carryOut_eval found level notEmpty skip, carryOut_polish found level notEmpty skip, ?_, ?_,
    answered, status, listed, item, fun result calculates => ?_, fun fault refused => ?_, ?_,
    fun request asks => status_of_asks asks⟩
  · rw [respond_posting (by decide), answer, asked]
  · rw [respond_posting (by decide), answer, asked]
  · rw [mode]
    exact valueShown calculates _
  · rw [mode]
    exact faultShown refused _
  · rw [mode]
    exact conversionShown _ _ _

/-- Strictness may come from a variable on one side and from a record on the other: an unmatched
parenthesis is the same fault on both. -/
theorem front_ends_agree_unmatched :
    ∃ outcome answer,
      carryOut { environment := [("INFIX_RPN_STRICT_TOKENIZER", "yes")] }
        (commandLine true "eval" "2 )") = .ok outcome ∧
      respond { skipWhitespace := true, strictTokenizer := true }
        (posting .evaluate [("expression", .text "2 )")]) = .ok answer ∧
      outcome.ending = .exit 1 ∧ answer.status = 422 ∧
      answer.field? "code" = some (.text "UNBALANCED_PARENTHESES") := by
  have found : ({ environment := [("INFIX_RPN_STRICT_TOKENIZER", "yes")] } :
      Surroundings).settings = .ok { strictTokenizer := true } := by rfl
  have sameSkip : ({ skipWhitespace := true, strictTokenizer := true } : Settings).skipWhitespace =
      (({ strictTokenizer := true } : Settings).skipWhitespace || true) := rfl
  have refused : calculate { skipLayout := true, strict := true } "2 )" =
      .error (.unmatched { kind := .rightParen, text := ")", position := some 2 }) :=
    calculate_of_toPolish_eq_error (by decide +kernel)
  have short : ∀ expression ∈ ["1"] ++ "2 )" :: [""], (expression.length : Int) ≤
      ({ skipWhitespace := true, strictTokenizer := true } : Settings).maxExpressionLength := by
    decide +kernel
  obtain ⟨outcome, -, answer, -, -, -, item, evals, -, answers, -, -, -, -, -, -, faults, -⟩ :=
    front_ends_agree found rfl sameSkip rfl (by decide) short
  have shown := faults _ refused
  exact ⟨outcome, answer, evals, answers, shown.ending, shown.status, shown.code⟩

end ReversePolish
