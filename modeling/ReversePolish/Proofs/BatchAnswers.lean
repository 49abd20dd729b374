import ReversePolish.Proofs.Answering
import ReversePolish.Proofs.Batches
import ReversePolish.Proofs.Pointwise
import ReversePolish.Proofs.WrittenDecimal

/-!
# Answers to batches

A batch is refused as a whole if one of its expressions is too long. Otherwise every expression gets
an item, in which null stands for two things: for what a faulty expression does not have, and for a
value that is no number of the answer's format. The written form of the value tells them apart.

- `Datum.IsFinite`, `isFinite_respond`: no answer of the service holds an infinite number or one
  that is not a number;
- `Service.badBody_eq_failure_iff`: where the service fails instead;
- `Number.plain_mem_names_iff`: the written forms of the values that are not finite;
- `itemShown_itemDatum`: an item shows a value or a fault;
- `respond_evaluateBatch`: the answer to a batch, and the decision on the length, which is the same
  as that on a single expression.
-/

namespace ReversePolish

/-! ## Numbers in answers -/

namespace Datum

/-- The number `x` occurs in the datum, at any depth. -/
inductive Holds (x : Float) : Datum → Prop
  | real : Holds x (.real x)
  | item {datum : Datum} {items : List Datum} (isItem : datum ∈ items) (holds : Holds x datum) :
    Holds x (.list items)
  | field {name : String} {datum : Datum} {fields : List (String × Datum)}
    (isField : (name, datum) ∈ fields) (holds : Holds x datum) : Holds x (.record fields)

/-- All numbers that occur in the datum are finite. -/
def IsFinite (datum : Datum) : Prop :=
  ∀ x, datum.Holds x → (Magnitude.ofFloat x).isFinite = true

@[simp]
theorem isFinite_null : IsFinite .null := nofun

@[simp]
theorem isFinite_bool (b : Bool) : IsFinite (.bool b) := nofun

@[simp]
theorem isFinite_int (n : Int) : IsFinite (.int n) := nofun

@[simp]
theorem isFinite_text (s : String) : IsFinite (.text s) := nofun

theorem isFinite_real {x : Float} :
    IsFinite (.real x) ↔ (Magnitude.ofFloat x).isFinite = true := by
  constructor
  · intro h
    exact h x .real
  · rintro h y ⟨⟩
    exact h

/-- A list is as finite as its items. -/
@[simp]
theorem isFinite_list {items : List Datum} :
    IsFinite (.list items) ↔ ∀ datum ∈ items, datum.IsFinite := by
  constructor
  · intro h datum isItem x holds
    exact h x (.item isItem holds)
  · rintro h x (_ | ⟨isItem, holds⟩ | _)
    exact h _ isItem x holds

/-- A record is as finite as its fields. -/
@[simp]
theorem isFinite_record {fields : List (String × Datum)} :
    IsFinite (.record fields) ↔ ∀ field ∈ fields, field.2.IsFinite := by
  constructor
  · rintro h ⟨name, datum⟩ isField x holds
    exact h x (.field isField holds)
  · rintro h x (_ | _ | ⟨isField, holds⟩)
    exact h _ isField x holds

@[simp]
theorem isFinite_ofList {α : Type} {f : α → Datum} {items : List α} :
    IsFinite (ofList f items) ↔ ∀ a ∈ items, (f a).IsFinite := by
  simp [ofList]

mutual

/-- A datum can be written exactly if it is finite. -/
theorem isWritable_iff : (datum : Datum) → (datum.isWritable = true ↔ datum.IsFinite)
  | .null | .bool _ | .int _ | .text _ => by simp [isWritable]
  | .real _ => isFinite_real.symm
  | .list items => by rw [isWritable, areWritable_iff items, isFinite_list]
  | .record fields => by rw [isWritable, areFieldsWritable_iff fields, isFinite_record]

theorem areWritable_iff :
    (items : List Datum) → (areWritable items = true ↔ ∀ datum ∈ items, datum.IsFinite)
  | [] => by simp [areWritable]
  | item :: items => by
    rw [areWritable, Bool.and_eq_true, isWritable_iff item, areWritable_iff items,
      List.forall_mem_cons]

theorem areFieldsWritable_iff : (fields : List (String × Datum)) →
    (areFieldsWritable fields = true ↔ ∀ field ∈ fields, field.2.IsFinite)
  | [] => by simp [areFieldsWritable]
  | (name, value) :: fields => by
    rw [areFieldsWritable, Bool.and_eq_true, isWritable_iff value, areFieldsWritable_iff fields,
      List.forall_mem_cons]

end

theorem isFinite_ofOption {α : Type} {f : α → Datum} (h : ∀ a, (f a).IsFinite) (a : Option α) :
    IsFinite (ofOption f a) := by
  cases a with
  | none => exact isFinite_null
  | some a => exact h a

end Datum

theorem Token.isFinite_toDatum (t : Token) : t.toDatum.IsFinite := by
  simp [toDatum, Datum.isFinite_ofOption]

theorem Diagnosis.isFinite_toDatum (diagnosis : Diagnosis) : diagnosis.toDatum.IsFinite := by
  simp [toDatum]

theorem Place.isFinite_toDatum (place : Place) : place.toDatum.IsFinite := by
  cases place <;> simp [toDatum]

theorem Complaint.isFinite_toDatum (complaint : Complaint) : complaint.toDatum.IsFinite := by
  rw [toDatum]
  cases complaint.violation.message? <;> simp [Place.isFinite_toDatum]

namespace Service

/-- A value is only given where it is finite. -/
theorem isFinite_finiteDatum (x : Float) : (finiteDatum x).IsFinite := by
  rw [finiteDatum]
  split
  · next finite =>
    rintro y ⟨⟩
    exact finite
  · exact Datum.isFinite_null

theorem isFinite_itemDatum (item : Batch.Item) : (itemDatum item).IsFinite := by
  simp [itemDatum, Datum.isFinite_ofOption, isFinite_finiteDatum, Diagnosis.isFinite_toDatum]

/-- The body of the answer, if there is one, holds finite numbers only. -/
def Response.IsFinite (response : Response) : Prop :=
  ∀ body ∈ response.body, body.IsFinite

theorem isFinite_record {status : Nat} {fields : List (String × Datum)} :
    (record status fields).IsFinite ↔ ∀ field ∈ fields, field.2.IsFinite := by
  simp [Response.IsFinite, record]

variable {settings : Settings}

theorem isFinite_failure : failure.IsFinite := by
  simp [Response.IsFinite, failure]

theorem isFinite_badBody (body : Option Datum) (complaints : List Complaint) :
    (badBody body complaints).IsFinite := by
  rw [badBody]
  split
  · simp [isFinite_record, Complaint.isFinite_toDatum]
  · exact isFinite_failure

/-- The service fails at a body of the wrong form exactly where it would have to quote a number that
is not finite. -/
theorem badBody_eq_failure_iff {body : Option Datum} {complaints : List Complaint} :
    badBody body complaints = failure ↔
      ∃ complaint ∈ complaints, ¬ (quotedDatum body complaint).IsFinite := by
  simp only [← Datum.isWritable_iff]
  rw [badBody]
  split
  · next all =>
    have writable : ∀ complaint ∈ complaints, (quotedDatum body complaint).isWritable = true :=
      List.all_eq_true.1 all
    refine iff_of_false (fun fails => ?_) ?_
    · -- The two answers differ in their status.
      have status := congrArg Response.status fails
      cases status
    · rintro ⟨complaint, mem, unwritable⟩
      exact unwritable (writable complaint mem)
  · next some => simpa using some

theorem isFinite_badLength (settings : Settings) : (badLength settings).IsFinite := by
  simp [badLength, refusal, isFinite_record]

theorem isFinite_badExpression (fault : Fault) : (badExpression fault).IsFinite := by
  simp [badExpression, isFinite_record]

theorem isFinite_onExpression (body : Option Datum) {command : Settings → String → Response}
    (kept : ∀ expression, (command settings expression).IsFinite) :
    (onExpression settings body command).IsFinite :=
  onExpression_induction (isFinite_badBody body) (isFinite_badLength settings) kept

/-- Every route gives finite numbers only. -/
theorem isFinite_answer (body : Option Datum) (route : Route) :
    (answer settings body route).IsFinite := by
  cases route with
  | tokenize =>
    refine isFinite_onExpression body fun expression => ?_
    rw [tokenize]
    split
    · simp [good, isFinite_record, Token.isFinite_toDatum]
    · exact isFinite_badExpression _
  | convert =>
    refine isFinite_onExpression body fun expression => ?_
    rw [convert]
    cases toPolish settings.mode expression <;>
      simp [good, isFinite_record, Token.isFinite_toDatum, Diagnosis.isFinite_toDatum]
  | evaluate =>
    refine isFinite_onExpression body fun expression => ?_
    rw [evaluate]
    split
    · simp [good, isFinite_record, isFinite_finiteDatum]
    · exact isFinite_badExpression _
  | evaluateBatch =>
    rw [answer]
    split
    · exact isFinite_badBody _ _
    · rw [evaluateBatch]
      split
      · exact isFinite_badLength settings
      · simp [good, isFinite_record, isFinite_itemDatum]
  | health => simp [answer, health, good, isFinite_record]

theorem isFinite_respondAt (method : String) (path : List Char) (body : Option Datum) :
    (respondAt settings method path body).IsFinite := by
  rw [respondAt]
  split
  · split
    · exact isFinite_answer body _
    · simp [methodNotAllowed, refusal, isFinite_record]
  · dsimp only
    split
    · split
      · simp [Response.IsFinite]
      · simp [methodNotAllowed, refusal, isFinite_record]
    · split
      · simp [redirection, Response.IsFinite]
      · simp [notFound, refusal, isFinite_record]

/-- Whatever is asked for, no answer holds an infinite number or one that is not a number. -/
theorem isFinite_respond {request : Request} {response : Response}
    (answers : respond settings request = .ok response) : response.IsFinite := by
  rw [respond, map_eq_ok_iff] at answers
  obtain ⟨path, -, rfl⟩ := answers
  dsimp only
  split
  · simp [Response.IsFinite]
  · split
    · exact isFinite_respondAt _ _ _
    · exact isFinite_respondAt _ _ _

end Service

/-! ## Values that are not finite -/

/-- The written forms of the values that are not finite, and of no others. -/
theorem Number.plain_mem_names_iff (x : Float) :
    plain x ∈ ["inf", "-inf", "nan"] ↔ (Magnitude.ofFloat x).isFinite = false := by
  cases magnitude : Magnitude.ofFloat x with
  | finite negative k =>
    -- The names have a letter that no written decimal has.
    have noName : 'n' ∉ (plain x).toList := by
      rw [toList_plain]
      intro letter
      have finite : (Magnitude.ofFloat x).isFinite = true := by rw [magnitude]; rfl
      exact absurd (mem_plainChars_of_finite finite letter) (by decide)
    have named : ∀ name ∈ ["inf", "-inf", "nan"], 'n' ∈ name.toList := by decide
    simp only [Magnitude.isFinite, Bool.true_eq_false, iff_false]
    exact fun isName => noName (named _ isName)
  | infinite negative =>
    have shown : plain x = String.ofList (withSign negative ['i', 'n', 'f']) :=
      congrArg String.ofList (plainChars_of_infinite magnitude)
    rw [shown]
    cases negative <;> simp [Magnitude.isFinite] <;> decide
  | undefined =>
    have shown : plain x = String.ofList ['n', 'a', 'n'] :=
      congrArg String.ofList (plainChars_of_undefined magnitude)
    rw [shown]
    simp [Magnitude.isFinite]

namespace Service

/-! ## Items -/

/-- An item shows a value or a fault of its expression, and no number where there is no finite
value. -/
structure ItemShown (expression : String) (item : Datum) : Prop where
  expression : item.field? "expression" = some (.text expression)
  shown : ∃ display error value, item.field? "display" = some display ∧
    item.field? "error" = some error ∧ item.field? "value" = some value ∧
    (display = .null ↔ error ≠ .null) ∧
    (value = .null ↔
      error ≠ .null ∨ ∃ name ∈ ["inf", "-inf", "nan"], display = .text name)

/-- Whether the item of an answer shows no fault. -/
def showsNoFault (item : Datum) : Bool :=
  match item.field? "error" with
  | some .null => true
  | _ => false

theorem itemShown_itemDatum (item : Batch.Item) : ItemShown item.expression (itemDatum item) := by
  refine ⟨rfl, _, _, _, rfl, rfl, rfl, ?_⟩
  rw [Batch.Item.value?, Batch.Item.fault?]
  cases item.outcome with
  | error fault => simp [Except.toOption, Datum.ofOption, Diagnosis.toDatum]
  | ok x =>
    obtain ⟨-, null⟩ := finiteDatum_cases x
    simp only [Except.toOption, Datum.ofOption, null]
    rw [← Number.plain_mem_names_iff]
    simp

theorem showsNoFault_itemDatum (item : Batch.Item) :
    showsNoFault (itemDatum item) = item.isFaultless := by
  have field : (itemDatum item).field? "error" =
      some (Datum.ofOption (fun fault => fault.diagnosis.toDatum) item.fault?) := rfl
  rw [showsNoFault, field, Batch.Item.isFaultless]
  cases item.fault? <;> rfl

/-! ## The answer -/

/-- The answer refuses an expression for its length, and says nothing else. -/
def Response.RefusesLength (settings : Settings) (response : Response) : Prop :=
  response.status = 422 ∧
    response.body = some (.record [("detail", .text ("Wyrażenie dłuższe niż " ++
      toString settings.maxExpressionLength ++ " znaków"))])

/-- The answer shows an item for every expression, in order, and counts those without a fault and
those with one. -/
structure Response.ShowsItems (expressions : List String) (response : Response) : Prop where
  status : response.status = 200
  items : ∃ (items : List Datum) (ok ko : Nat), response.field? "items" = some (.list items) ∧
    List.Forall₂ ItemShown expressions items ∧
    response.field? "total" = some (.int expressions.length) ∧
    response.field? "ok" = some (.int ok) ∧ response.field? "ko" = some (.int ko) ∧
    ok + ko = expressions.length ∧ ok = items.countP showsNoFault

variable {settings : Settings}

theorem refusesLength_badLength (settings : Settings) :
    (badLength settings).RefusesLength settings := ⟨rfl, rfl⟩

/-- A fault of the expression is another refusal, since it has a class. -/
theorem not_refusesLength_badExpression (fault : Fault) :
    ¬ (badExpression fault).RefusesLength settings := by
  rintro ⟨-, body⟩
  simp [badExpression, record] at body

theorem not_refusesLength_good (fields : List (String × Datum)) :
    ¬ (good fields).RefusesLength settings := by
  rintro ⟨status, -⟩
  cases status

theorem not_refusesLength_tokenize (expression : String) :
    ¬ (tokenize settings expression).RefusesLength settings := by
  rw [tokenize]
  split
  · exact not_refusesLength_good _
  · exact not_refusesLength_badExpression _

theorem not_refusesLength_evaluate (expression : String) :
    ¬ (evaluate settings expression).RefusesLength settings := by
  rw [evaluate]
  split
  · exact not_refusesLength_good _
  · exact not_refusesLength_badExpression _

/-- A command that never refuses a length is only kept from its answer by the length. -/
theorem refusesLength_onExpression {fields : List (String × Datum)} {text : String}
    (given : fields.lookup "expression" = some (.text text)) (notEmpty : text ≠ "")
    {command : Settings → String → Response}
    (kept : ¬ (command settings text).RefusesLength settings) :
    (onExpression settings (some (.record fields)) command).RefusesLength settings ↔
      settings.maxExpressionLength < text.length := by
  by_cases long : settings.maxExpressionLength < text.length
  · have refused : tooLong settings text = true := decide_eq_true long
    rw [onExpression, expressionOf_of_lookup given notEmpty]
    dsimp only
    rw [if_pos refused]
    exact iff_of_true (refusesLength_badLength settings) long
  · rw [onExpression_of_lookup given notEmpty (Int.not_lt.1 long)]
    exact iff_of_false kept long

/-- All routes on a single expression refuse it for its length alike. -/
theorem refusesLength_answer {route : Route} (single : route ∈ singleRoutes)
    {fields : List (String × Datum)} {text : String}
    (given : fields.lookup "expression" = some (.text text)) (notEmpty : text ≠ "") :
    (answer settings (some (.record fields)) route).RefusesLength settings ↔
      settings.maxExpressionLength < text.length := by
  simp only [singleRoutes, List.mem_cons, List.not_mem_nil, or_false] at single
  obtain rfl | rfl | rfl := single
  · exact refusesLength_onExpression given notEmpty (not_refusesLength_tokenize text)
  · exact refusesLength_onExpression given notEmpty (not_refusesLength_good _)
  · exact refusesLength_onExpression given notEmpty (not_refusesLength_evaluate text)

/-- A batch of which no expression is too long shows its items. -/
theorem showsItems_evaluateBatch {texts : List String}
    (short : ∀ text ∈ texts, (text.length : Int) ≤ settings.maxExpressionLength) :
    (evaluateBatch settings texts).ShowsItems texts := by
  have length : (Batch.calculate settings.mode texts).length = texts.length := List.length_map _
  have shown : List.Forall₂ ItemShown texts
      ((Batch.calculate settings.mode texts).map itemDatum) := by
    rw [Batch.calculate, List.map_map, List.forall₂_map_right_iff, List.forall₂_same]
    exact fun text _ => itemShown_itemDatum (Batch.item settings.mode text)
  -- The items are counted by their values, and shown without a fault exactly if they have one.
  have counted : Batch.succeeded (Batch.calculate settings.mode texts) =
      ((Batch.calculate settings.mode texts).map itemDatum).countP showsNoFault := by
    rw [List.countP_map, Batch.succeeded]
    refine List.countP_congr fun item _ => ?_
    rw [Function.comp_apply, showsNoFault_itemDatum, Batch.Item.isFaultless_eq]
  rw [evaluateBatch_of_short short]
  refine ⟨rfl, _, _, _, rfl, shown, ?_, rfl, rfl, ?_, counted⟩
  · rw [← length]
    rfl
  · rw [Batch.succeeded_add_failed, length]

/-- A list of expressions is refused as a whole, without any item, exactly if one of them, wherever
it stands, is longer than allowed. Otherwise every expression has its item. No number in the answer
is infinite or undefined. And a single expression is refused for its length where each of the other
routes refuses it for its length. -/
theorem respond_evaluateBatch (settings : Settings) {fields : List (String × Datum)}
    {texts : List String} (given : fields.lookup "expressions" = some (.list (texts.map .text)))
    (notEmpty : texts ≠ []) :
    ∃ answer, respond settings (posting .evaluateBatch fields) = .ok answer ∧
      (answer.RefusesLength settings ↔
        ∃ text ∈ texts, settings.maxExpressionLength < text.length) ∧
      (answer.RefusesLength settings → answer.field? "items" = none) ∧
      (¬ answer.RefusesLength settings → answer.ShowsItems texts) ∧
      answer.IsFinite ∧
      ∀ text, texts = [text] → text ≠ "" → ∀ route ∈ singleRoutes, ∀ fields',
        fields'.lookup "expression" = some (.text text) →
          ∃ single, respond settings (posting route fields') = .ok single ∧
            (single.RefusesLength settings ↔ answer.RefusesLength settings) := by
  have answers : respond settings (posting .evaluateBatch fields) =
      .ok (evaluateBatch settings texts) := by
    rw [respond_posting (by decide), answer_evaluateBatch given notEmpty]
  have refuses : (evaluateBatch settings texts).RefusesLength settings ↔
      ∃ text ∈ texts, settings.maxExpressionLength < text.length := by
    by_cases long : ∃ text ∈ texts, settings.maxExpressionLength < text.length
    · have refused : texts.any (tooLong settings) = true := by
        simpa [tooLong] using long
      rw [evaluateBatch, if_pos refused]
      exact iff_of_true (refusesLength_badLength settings) long
    · have short : ∀ text ∈ texts, (text.length : Int) ≤ settings.maxExpressionLength := by
        push Not at long
        exact long
      rw [evaluateBatch_of_short short]
      exact iff_of_false (not_refusesLength_good _) long
  refine ⟨_, answers, refuses, ?_, ?_, isFinite_respond answers, ?_⟩
  · rintro ⟨-, body⟩
    rw [Response.field?, body]
    rfl
  · intro notRefused
    rw [refuses] at notRefused
    push Not at notRefused
    exact showsItems_evaluateBatch notRefused
  · rintro text rfl notEmpty route single fields' given'
    refine ⟨_, respond_posting (post_of_mem_singleRoutes single) fields', ?_⟩
    rw [refuses, refusesLength_answer single given' notEmpty]
    simp

/-- A limit of three characters lets a division by zero and an open parenthesis pass, side by
side. -/
theorem respond_evaluateBatch_mixed :
    ∃ answer, respond { maxExpressionLength := 3 } (posting .evaluateBatch
        [("note", .null), ("expressions", .list [.text "1/0", .text "", .text "(2"])]) =
          .ok answer ∧
      answer.ShowsItems ["1/0", "", "(2"] := by
  have given : List.lookup "expressions" [("note", Datum.null),
      ("expressions", .list [.text "1/0", .text "", .text "(2"])] =
        some (.list (["1/0", "", "(2"].map .text)) := rfl
  obtain ⟨answer, answers, refuses, -, shows, -, -⟩ :=
    respond_evaluateBatch { maxExpressionLength := 3 } given (by decide)
  refine ⟨answer, answers, shows ?_⟩
  rw [refuses]
  decide

end Service

end ReversePolish
