import ReversePolish.Proofs.Batches
import ReversePolish.Proofs.Handover

/-!
# Batches item by item

A batch goes another way than the calculation of a single expression: it records no steps, and it
keeps a fault beside the other items. Still each item tells what the calculation of its expression
alone gives, whatever stands beside it.

- `Batch.Item.Reports`: what an item tells of its expression;
- `Batch.reports_item`: every item of a batch tells this;
- `Batch.succeeded_add_failed`, `Batch.map_some_values`, `Batch.length_values`: the summary counts
  each item once, and lists the values of those without a fault;
- `Batch.calculate_pointwise`: a batch as a whole.
-/

namespace ReversePolish.Batch

/-! ## What an item tells -/

/-- The item tells what the calculation of its expression alone gives. -/
structure Item.Reports (mode : Scan.Mode) (item : Item) : Prop where
  /-- It has a value and no fault exactly where the calculation has that value. -/
  value : ∀ v, item.fault? = none ∧ item.value? = some v ↔
    ∃ result, ReversePolish.calculate mode item.expression = .ok result ∧ result.value = v
  /-- It has a fault and no value exactly where the calculation meets a fault of that class and
  wording. -/
  fault : ∀ diagnosis, item.value? = none ∧ item.fault?.map Fault.diagnosis = some diagnosis ↔
    (ReversePolish.calculate mode item.expression).mapError Fault.diagnosis = .error diagnosis
  /-- It shows the reverse Polish notation wherever there is one, with or without a value. -/
  polish : ∀ ts, toPolish mode item.expression = .ok ts →
    item.rendered = " ".intercalate (ts.map (·.text))
  /-- It shows what is wrong with the conversion where there is none. -/
  refused : ∀ fault, toPolish mode item.expression = .error fault → item.rendered = fault.message
  /-- No result on the way is refused, so that only faults of expressions are met. -/
  accepted : ∀ ts, Scan.tokens mode item.expression = .ok ts →
    convertChecked ts = .ok (convert ts) ∧
      ∀ polish, convert ts = .ok polish → traceChecked polish = (trace polish).map .ok

theorem Item.value?_eq_some_iff {item : Item} {v : Float} :
    item.fault? = none ∧ item.value? = some v ↔ item.outcome = .ok v := by
  rw [fault?, value?]
  cases item.outcome <;> simp [Except.toOption]

theorem Item.fault?_eq_some_iff {item : Item} {diagnosis : Diagnosis} :
    item.value? = none ∧ item.fault?.map Fault.diagnosis = some diagnosis ↔
      item.outcome.mapError Fault.diagnosis = .error diagnosis := by
  rw [fault?, value?]
  cases item.outcome <;> simp [Except.toOption, Except.mapError]

/-- An item tells what the calculation of its expression gives. -/
theorem reports_item (mode : Scan.Mode) (expression : String) :
    (item mode expression).Reports mode where
  value v := by
    rw [Item.value?_eq_some_iff, outcome_item, map_eq_ok_iff]
    rfl
  fault diagnosis := by
    rw [Item.fault?_eq_some_iff, outcome_item]
    change _ ↔ (ReversePolish.calculate mode expression).mapError Fault.diagnosis = _
    cases ReversePolish.calculate mode expression <;> simp [Except.map, Except.mapError]
  polish ts converts := congrArg (render " ") converts
  refused fault refused := congrArg (render " ") refused
  accepted ts scans := by
    have wellFormed := Scan.wellFormed_of_tokens scans
    refine ⟨convertChecked_of_wellFormed wellFormed, fun polish converts => ?_⟩
    -- What is evaluated was scanned, every token of it.
    apply traceChecked_of_wellFormed
    intro t ht
    exact wellFormed t (mem_of_convert converts ht).1

/-! ## What the summary counts -/

/-- Whether the item has no fault. -/
def Item.isFaultless (item : Item) : Bool :=
  item.fault?.isNone

/-- An item without a fault has a value. -/
theorem Item.isFaultless_eq (item : Item) : item.isFaultless = item.value?.isSome := by
  rw [isFaultless, fault?, value?]
  cases item.outcome <;> rfl

theorem Item.isSome_fault? (item : Item) : item.fault?.isSome = !item.isFaultless := by
  rw [isFaultless, Option.not_isNone]

/-- Every item is counted once. -/
theorem succeeded_add_failed (items : List Item) :
    succeeded items + failed items = items.length := by
  -- A fault is counted where a value is not.
  have others : failed items = items.countP fun item => ¬ item.value?.isSome := by
    refine List.countP_congr fun item _ => ?_
    rw [Item.isSome_fault?, Item.isFaultless_eq]
    simp
  rw [succeeded, others]
  exact (List.length_eq_countP_add_countP _).symm

/-- The values are those of the items without a fault, in order. -/
theorem map_some_values (items : List Item) :
    (values items).map some = (items.filter Item.isFaultless).map Item.value? := by
  -- On the items: each one is passed over on both sides, or on neither.
  induction items with
  | nil => rfl
  | cons item items ih =>
    have either := item.isFaultless_eq
    rw [values] at ih ⊢
    cases value : item.value? with
    | some v =>
      have noFault : item.isFaultless = true := by rw [either, value]; rfl
      rw [List.filterMap_cons_some value, List.filter_cons_of_pos noFault, List.map_cons,
        List.map_cons, ih, value]
    | none =>
      have faulty : ¬ item.isFaultless = true := by rw [either, value]; simp
      rw [List.filterMap_cons_none value, List.filter_cons_of_neg faulty, ih]

/-- There are as many values as items that have one. -/
theorem length_values (items : List Item) : (values items).length = succeeded items := by
  rw [values, List.length_filterMap_eq_countP]
  rfl

/-! ## A batch -/

/-- A batch is calculated expression by expression. Its items stand in the order of the expressions,
each one depends on its own expression alone and tells what the calculation of that gives, and a
longer batch only adds items. The summary counts every item once, by whether it has a fault, and
lists the values of those that have none. -/
theorem calculate_pointwise (mode : Scan.Mode) (expressions more : List String) :
    calculate mode (expressions ++ more) = calculate mode expressions ++ calculate mode more ∧
      (∀ i : Nat, (calculate mode expressions)[i]? = expressions[i]?.map (item mode)) ∧
      (∀ expression ∈ expressions, (item mode expression).expression = expression ∧
        (item mode expression).Reports mode) ∧
      (calculate mode expressions).length = expressions.length ∧
      succeeded (calculate mode expressions) + failed (calculate mode expressions) =
        (calculate mode expressions).length ∧
      (values (calculate mode expressions)).map some =
        ((calculate mode expressions).filter Item.isFaultless).map Item.value? ∧
      (values (calculate mode expressions)).length = succeeded (calculate mode expressions) := by
  refine ⟨List.map_append, fun i => List.getElem?_map, fun expression _ => ?_, List.length_map _,
    succeeded_add_failed _, map_some_values _, length_values _⟩
  exact ⟨rfl, reports_item mode expression⟩

end ReversePolish.Batch
