import ReversePolish.Conversion
import ReversePolish.Evaluation
import ReversePolish.Scan

/-!
# Calculation

From the text of an expression to its value: scanning, conversion, evaluation.

## Main definitions

* `toPolish`: the expression in reverse Polish notation.
* `calculate`: the expression in that notation, its value, and the steps to it.
-/

namespace ReversePolish

/-- What is known of an expression that was calculated. -/
structure Calculation extends Trace where
  /-- The tokens in reverse Polish notation. -/
  polish : List Token

/-- The expression in reverse Polish notation. -/
def toPolish (mode : Scan.Mode) (expression : String) : Except Fault (List Token) :=
  (Scan.tokens mode expression).bind convert

/-- The value of the expression and what led to it. -/
def calculate (mode : Scan.Mode) (expression : String) : Except Fault Calculation :=
  (toPolish mode expression).bind fun polish =>
    (trace polish).map fun result => { result with polish }

/-- Without the steps, a calculation is the evaluation of the reverse Polish notation. -/
theorem map_value_calculate (mode : Scan.Mode) (expression : String) :
    (calculate mode expression).map (·.value) = (toPolish mode expression).bind evaluate := by
  rw [calculate]
  cases toPolish mode expression with
  | error fault => rfl
  | ok polish =>
    change Except.map _ ((trace polish).map _) = evaluate polish
    rw [evaluate_eq_map_trace]
    cases trace polish <;> rfl

end ReversePolish
