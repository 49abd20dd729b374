import ReversePolish.Fault
import ReversePolish.Number.Display
import ReversePolish.Number.Numeral
import ReversePolish.Token

/-!
# Evaluation of reverse Polish notation

Tokens are taken one by one. A number is put on a stack of operands; an operator takes the two
latest operands from it and puts its result there. At the end one operand is left: the value.

## Main definitions

* `Operator.apply`: the four operations on doubles.
* `Step`: an operation that was carried out; `Step.text`: its line.
* `Evaluation`: the operands and the steps so far.
* `Evaluation.feed`, `Evaluation.finish`: the next token, and the end.
* `trace`: value and steps of a list of tokens.
* `reduce`, `evaluate`: the value alone, without any record of the steps.
-/

namespace ReversePolish

/-- The operations in double precision. Division by zero gives an infinity or, of zero, no
number. -/
def Operator.apply : Operator → Float → Float → Float
  | .add, left, right => left + right
  | .sub, left, right => left - right
  | .mul, left, right => left * right
  | .div, left, right => left / right

/-- An operation that was carried out. -/
structure Step where
  /-- The left operand. -/
  left : Float
  /-- The text of the operator. -/
  symbol : String
  /-- The right operand. -/
  right : Float
  /-- The result. -/
  result : Float

/-- A step in one line, with its numbers in plain form. -/
def Step.text (step : Step) : String :=
  Number.plain step.left ++ " " ++ step.symbol ++ " " ++ Number.plain step.right ++ " = " ++
    Number.plain step.result

/-- An evaluation under way. -/
structure Evaluation where
  /-- The operands that wait, the latest first. -/
  operands : List Float := []
  /-- The steps carried out so far, the latest first. -/
  steps : List Step := []

/-- The outcome of an evaluation. -/
structure Trace where
  /-- The value. -/
  value : Float
  /-- The steps that led to it, in order. -/
  steps : List Step

namespace Evaluation

/-- The start of an evaluation. -/
def start : Evaluation := {}

/-- Puts a number on the stack. -/
def push (state : Evaluation) (x : Float) : Evaluation :=
  { state with operands := x :: state.operands }

/-- Carries out the operator `op`, which the token `t` stands for. -/
def operate (state : Evaluation) (op : Operator) (t : Token) : Except Fault Evaluation :=
  match state.operands with
  | right :: left :: rest =>
    let result := op.apply left right
    .ok {
      operands := result :: rest
      steps := { left, symbol := t.text, right, result } :: state.steps }
  | _ => .error (.missingOperand t state.operands.length)

/-- Takes the next token. -/
def feed (state : Evaluation) (t : Token) : Except Fault Evaluation :=
  match t.kind with
  | .number _ =>
    match Numeral.read? t.text with
    | some x => .ok (state.push x)
    | none => .error (.unreadableNumber t)
  | .operator op => state.operate op t
  | _ => .error (.unexpected t)

/-- The value at the end of the tokens. -/
def finish (state : Evaluation) : Except Fault Trace :=
  match state.operands with
  | [value] => .ok { value, steps := state.steps.reverse }
  | operands => .error (.leftover operands.length)

/-- Takes a list of tokens. -/
def feedAll (state : Evaluation) (ts : List Token) : Except Fault Evaluation :=
  ts.foldlM feed state

@[simp]
theorem feedAll_nil (state : Evaluation) : state.feedAll [] = .ok state := rfl

@[simp]
theorem feedAll_cons (state : Evaluation) (t : Token) (ts : List Token) :
    state.feedAll (t :: ts) = (state.feed t).bind (·.feedAll ts) := rfl

/-- Taking two lists in turn is taking them together. -/
theorem feedAll_append (state : Evaluation) (ts us : List Token) :
    state.feedAll (ts ++ us) = (state.feedAll ts).bind (·.feedAll us) := by
  induction ts generalizing state with
  | nil => rfl
  | cons t ts ih =>
    rw [List.cons_append, feedAll_cons, feedAll_cons]
    cases state.feed t with
    | error fault => rfl
    | ok next => exact ih next

/-- The fault of a list is that of one of its tokens. -/
theorem exists_feed_of_feedAll {state : Evaluation} {ts : List Token} {fault : Fault}
    (refused : state.feedAll ts = .error fault) :
    ∃ t ∈ ts, ∃ before : Evaluation, before.feed t = .error fault := by
  induction ts generalizing state with
  | nil => cases refused
  | cons t ts ih =>
    rw [feedAll_cons] at refused
    cases fed : state.feed t with
    | error first =>
      rw [fed] at refused
      cases refused
      exact ⟨t, List.mem_cons_self, state, fed⟩
    | ok next =>
      rw [fed] at refused
      obtain ⟨u, hu, before, fault⟩ := ih refused
      exact ⟨u, List.mem_cons_of_mem t hu, before, fault⟩

end Evaluation

/-- What is wrong with the beginning of a sequence, before any of it is evaluated. -/
def openingFault? : List Token → Option Fault
  | [] => some .nothing
  | t :: _ =>
    match t.kind with
    | .invalid => some (.rejected t)
    | .operator _ => some (.leadingOperator t)
    | _ => none

/-- Value and steps of a sequence in reverse Polish notation. -/
def trace (ts : List Token) : Except Fault Trace :=
  match openingFault? ts with
  | some fault => .error fault
  | none => (Evaluation.start.feedAll ts).bind Evaluation.finish

/-- An evaluation is refused for its beginning, for one of its tokens, or for its end. -/
theorem cases_of_trace_eq_error {ts : List Token} {fault : Fault}
    (refused : trace ts = .error fault) :
    openingFault? ts = some fault ∨
      (∃ t ∈ ts, ∃ before : Evaluation, before.feed t = .error fault) ∨
      ∃ final : Evaluation, final.finish = .error fault := by
  rw [trace] at refused
  split at refused
  · next opening =>
    cases refused
    exact .inl opening
  · cases run : Evaluation.start.feedAll ts with
    | error first =>
      rw [run] at refused
      cases refused
      exact .inr (.inl (Evaluation.exists_feed_of_feedAll run))
    | ok final =>
      rw [run] at refused
      exact .inr (.inr ⟨final, refused⟩)

/-! ## Evaluation without steps -/

/-- Takes the next token where only operands are kept, the latest first. -/
def reduce (operands : List Float) (t : Token) : Except Fault (List Float) :=
  match t.kind with
  | .number _ =>
    match Numeral.read? t.text with
    | some x => .ok (x :: operands)
    | none => .error (.unreadableNumber t)
  | .operator op =>
    match operands with
    | right :: left :: rest => .ok (op.apply left right :: rest)
    | _ => .error (.missingOperand t operands.length)
  | _ => .error (.unexpected t)

/-- The only operand. -/
def soleOperand : List Float → Except Fault Float
  | [value] => .ok value
  | operands => .error (.leftover operands.length)

/-- The value of a sequence in reverse Polish notation. No steps are recorded on the way. -/
def evaluate (ts : List Token) : Except Fault Float :=
  match openingFault? ts with
  | some fault => .error fault
  | none => (ts.foldlM reduce []).bind soleOperand

namespace Evaluation

/-- A token is taken in the same way with and without steps. -/
theorem map_operands_feed (state : Evaluation) (t : Token) :
    (state.feed t).map (·.operands) = reduce state.operands t := by
  rw [feed, reduce]
  cases t.kind with
  | number spelling => cases Numeral.read? t.text <;> rfl
  | operator op => rcases state with ⟨_ | ⟨right, _ | ⟨left, rest⟩⟩, steps⟩ <;> rfl
  | leftParen => rfl
  | rightParen => rfl
  | invalid => rfl

/-- So is a list of tokens. -/
theorem map_operands_feedAll (state : Evaluation) (ts : List Token) :
    (state.feedAll ts).map (·.operands) = ts.foldlM reduce state.operands := by
  induction ts generalizing state with
  | nil => rfl
  | cons t ts ih =>
    rw [feedAll_cons, List.foldlM_cons, ← map_operands_feed]
    cases state.feed t with
    | error fault => rfl
    | ok next => exact ih next

theorem map_value_finish (state : Evaluation) :
    state.finish.map (·.value) = soleOperand state.operands := by
  rcases state with ⟨_ | ⟨value, _ | ⟨other, rest⟩⟩, steps⟩ <;> rfl

end Evaluation

/-- The steps that are recorded change neither the value nor the fault of an evaluation. -/
theorem evaluate_eq_map_trace (ts : List Token) : evaluate ts = (trace ts).map (·.value) := by
  rw [evaluate, trace]
  cases openingFault? ts with
  | some fault => rfl
  | none =>
    -- Both keep the same operands.
    have run : (Evaluation.start.feedAll ts).map (·.operands) = ts.foldlM reduce [] :=
      Evaluation.start.map_operands_feedAll ts
    dsimp only
    rw [← run]
    cases Evaluation.start.feedAll ts with
    | error fault => rfl
    | ok final => exact final.map_value_finish.symm

end ReversePolish
