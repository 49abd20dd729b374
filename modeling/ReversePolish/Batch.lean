import ReversePolish.Calculation

/-!
# Batches

Several expressions, each calculated by itself. A fault in one does not touch the others.

## Main definitions

* `Batch.Item`: an expression of a batch with its outcome.
* `Batch.calculate`: the items of a list of expressions.
* `Batch.succeeded`, `Batch.failed`, `Batch.values`, `Batch.sum?`: the summary.
-/

namespace ReversePolish.Batch

/-- An expression of a batch. -/
structure Item where
  /-- The expression. -/
  expression : String
  /-- The outcome of the conversion in one line. -/
  rendered : String
  /-- The value, or what is wrong. -/
  outcome : Except Fault Float

/-- The value of the item, if it has one. -/
def Item.value? (item : Item) : Option Float :=
  item.outcome.toOption

/-- The fault of the item, if it has one. -/
def Item.fault? (item : Item) : Option Fault :=
  match item.outcome with
  | .ok _ => none
  | .error fault => some fault

/-- The item of an expression. -/
def item (mode : Scan.Mode) (expression : String) : Item :=
  let polish := toPolish mode expression
  { expression, rendered := render " " polish, outcome := polish.bind evaluate }

/-- The items of the expressions, in order. -/
def calculate (mode : Scan.Mode) (expressions : List String) : List Item :=
  expressions.map (item mode)

/-- The values of the items that have one, in order. -/
def values (items : List Item) : List Float :=
  items.filterMap Item.value?

/-- How many items have a value. -/
def succeeded (items : List Item) : Nat :=
  items.countP fun item => item.value?.isSome

/-- How many items have a fault. -/
def failed (items : List Item) : Nat :=
  items.countP fun item => item.fault?.isSome

/-- The values added up from the left, if there are any. -/
def sum? (items : List Item) : Option Float :=
  match values items with
  | [] => none
  | xs => some (xs.foldl (· + ·) 0)

end ReversePolish.Batch
