import ReversePolish.Datum
import ReversePolish.Token.Lexeme

/-!
# Tokens from outside

A token can be given as a record. All faults of its fields are reported together; if there is none,
the text has to fit the kind. A list of tokens that is to be handed on is put to the same rule.

## Main definitions

* `Token.ofDatum`: the token of a record.
* `Token.complaints`: what is wrong with the tokens of a list, at the places of a result.
-/

namespace ReversePolish.Token

/-- The kind that a datum names. -/
def kindOfDatum : Datum → Except Violation Kind
  | .text s =>
    match Kind.ofName? s with
    | some kind => .ok kind
    | none => .error .notMember
  | _ => .error .notMember

/-- A datum that may be null. -/
def nullable {α : Type} (check : Datum → Except Violation α) : Datum → Except Violation (Option α)
  | .null => .ok none
  | datum => (check datum).map some

/-- The check of a field; `absent` stands for a field that is not there. -/
def checkField {α : Type} (datum : Datum) (name : String) (absent : Except Violation α)
    (check : Datum → Except Violation α) : Checked α :=
  Checked.located [.field name]
    (match datum.field? name with
    | some value => check value
    | none => absent)

/-- The token, if its text fits its kind. -/
def check (t : Token) : Checked Token :=
  match t.lexemeFault? with
  | none => .ok t
  | some fault => Checked.refuse [] (.rule fault.message)

/-- The token that a record gives. A kind has to be given; the text is empty and the other fields
are null where they are not given. -/
def ofDatum (datum : Datum) : Checked Token :=
  let kind := checkField datum "kind" (.error .missing) kindOfDatum
  let text := checkField datum "text" (.ok "") Datum.text?
  let message := checkField datum "message" (.ok none) (nullable Datum.text?)
  let position := checkField datum "position" (.ok none) (nullable Datum.int?)
  ((kind.both text).both (message.both position)).bind
    fun ((kind, text), (message, position)) => check { kind, text, message, position }

/-- The complaints about the tokens of the list called `result`, from the one with the given index
on. -/
def complaintsFrom (result : String) (index : Nat) : List Token → List Complaint
  | [] => []
  | t :: ts =>
    match t.lexemeFault? with
    | none => complaintsFrom result (index + 1) ts
    | some fault =>
      { place := [.field result, .item index], violation := .rule fault.message } ::
        complaintsFrom result (index + 1) ts

/-- The complaints about the tokens of the list called `result`. -/
def complaints (result : String) (ts : List Token) : List Complaint :=
  complaintsFrom result 0 ts

/-- The list called `result`, if all its tokens are well formed. -/
def checkAll (result : String) (ts : List Token) : Checked (List Token) :=
  match complaints result ts with
  | [] => .ok ts
  | found => .error found

theorem complaintsFrom_eq_nil_iff (result : String) (index : Nat) (ts : List Token) :
    complaintsFrom result index ts = [] ↔ ∀ t ∈ ts, t.WellFormed := by
  induction ts generalizing index with
  | nil => simp [complaintsFrom]
  | cons t ts ih =>
    unfold complaintsFrom
    split
    · next h => simp [ih, WellFormed, h]
    · next h => simp [WellFormed, h]

end ReversePolish.Token
