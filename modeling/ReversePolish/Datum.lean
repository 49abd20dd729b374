import ReversePolish.Number.Display
import ReversePolish.Number.Integer

/-!
# Data from outside, and their checks

Tokens, settings and requests arrive as plain data: nulls, truth values, numbers, texts, lists and
records. This module holds that form, the checks that turn a datum into a value of a wanted type,
and the complaints of a failed check. A check is lenient: a text or a number may stand for a truth
value, and a text or a whole number in another form for an integer.

## Main definitions

* `Datum`: the data.
* `Violation`: what can be wrong with a datum; `Violation.name`: its written name.
* `Complaint`: a violation and the place where it was found.
* `Checked`: a value, or all complaints.
* `Datum.text?`, `Datum.bool?`, `Datum.int?`: the checks of single data.
-/

namespace ReversePolish

/-- Plain data. -/
inductive Datum where
  | null
  | bool (b : Bool)
  | int (n : Int)
  | real (x : Float)
  | text (s : String)
  | list (items : List Datum)
  | record (fields : List (String × Datum))
  deriving Inhabited

namespace Datum

/-- The field of the given name, if the datum is a record that has one. -/
def field? (name : String) : Datum → Option Datum
  | .record fields => fields.lookup name
  | _ => none

end Datum

/-- What can be wrong with a datum. -/
inductive Violation where
  /-- A field that must be there is not. -/
  | missing
  /-- A text is wanted. -/
  | notText
  /-- A text must have at least one character. -/
  | emptyText
  /-- A list is wanted. -/
  | notList
  /-- A list must have at least one item. -/
  | emptyList
  /-- A record is wanted. -/
  | notRecord
  /-- One of a set of names is wanted. -/
  | notMember
  /-- One of a set of literal texts is wanted. -/
  | notLiteral
  /-- A truth value is wanted. -/
  | notBool
  /-- The datum spells no truth value. -/
  | unreadableBool
  /-- An integer is wanted. -/
  | notInt
  /-- The text spells no integer. -/
  | unreadableInt
  /-- The number is too large. -/
  | oversizedInt
  /-- The number has a fractional part. -/
  | fractionalInt
  /-- The number is infinite. -/
  | infiniteInt
  /-- The integer must not be negative. -/
  | negative
  /-- A rule of the whole value is broken, in the words given. -/
  | rule (message : String)
  deriving DecidableEq, Repr

namespace Violation

/-- The written name of a violation. -/
def name : Violation → String
  | .missing => "missing"
  | .notText => "string_type"
  | .emptyText => "string_too_short"
  | .notList => "list_type"
  | .emptyList => "too_short"
  | .notRecord => "model_attributes_type"
  | .notMember => "enum"
  | .notLiteral => "literal_error"
  | .notBool => "bool_type"
  | .unreadableBool => "bool_parsing"
  | .notInt => "int_type"
  | .unreadableInt => "int_parsing"
  | .oversizedInt => "int_parsing_size"
  | .fractionalInt => "int_from_float"
  | .infiniteInt => "finite_number"
  | .negative => "greater_than_equal"
  | .rule _ => "value_error"

/-- What is said of a broken rule. -/
def message? : Violation → Option String
  | .rule message => some ("Value error, " ++ message)
  | _ => none

end Violation

/-- A part of the way to a place inside a datum. -/
inductive Place where
  | field (name : String)
  | item (index : Nat)
  deriving DecidableEq, Repr

/-- A violation and the way to it from outside in. -/
structure Complaint where
  /-- The way to the datum. -/
  place : List Place
  /-- What is wrong with it. -/
  violation : Violation
  deriving DecidableEq, Repr

/-- A value that passed its check, or all complaints in order. -/
abbrev Checked (α : Type) := Except (List Complaint) α

namespace Checked

variable {α β : Type}

/-- A single complaint. -/
def refuse (place : List Place) (violation : Violation) : Checked α :=
  .error [{ place, violation }]

/-- Two checks together: both values, or the complaints of both. -/
def both : Checked α → Checked β → Checked (α × β)
  | .ok a, .ok b => .ok (a, b)
  | .ok _, .error more => .error more
  | .error complaints, .ok _ => .error complaints
  | .error complaints, .error more => .error (complaints ++ more)

/-- A list of checks together. -/
def all : List (Checked α) → Checked (List α)
  | [] => .ok []
  | check :: checks => (both check (all checks)).map fun (a, as) => a :: as

/-- The check of a single datum, as the check of the datum at a place. -/
def located (place : List Place) : Except Violation α → Checked α
  | .ok a => .ok a
  | .error violation => refuse place violation

end Checked

namespace Datum

/-- The texts that spell a truth value, in lower case. -/
def boolSpellings : List (String × Bool) :=
  [("true", true), ("t", true), ("yes", true), ("y", true), ("on", true), ("1", true),
    ("false", false), ("f", false), ("no", false), ("n", false), ("off", false), ("0", false)]

/-- The truth value that a text spells, in any case. -/
def spelledBool? (s : String) : Except Violation Bool :=
  match boolSpellings.lookup (String.ofList (s.toList.map Char.toLower)) with
  | some b => .ok b
  | none => .error .unreadableBool

/-- The integer that a text spells. -/
def spelledInt? (s : String) : Except Violation Int :=
  match Integer.read? s with
  | .ok n => .ok n
  | .error .malformed => .error .unreadableInt
  | .error .oversized => .error .oversizedInt

/-- Integers of this size and beyond are too large for a machine word. -/
def wordLimit : Nat := 0x8000000000000000

/-- The integer that a double equals, if it is nearer to zero than the limit of a word. -/
def wholeInt? (x : Float) : Except Violation Int :=
  match Magnitude.ofFloat x with
  | .finite negative k =>
    if Number.isWhole k then
      if Number.wholePart k < wordLimit then
        .ok (if negative then -(Number.wholePart k : Int) else Number.wholePart k)
      else .error .oversizedInt
    else .error .fractionalInt
  | _ => .error .infiniteInt

/-- A text. Nothing else stands for one. -/
def text? : Datum → Except Violation String
  | .text s => .ok s
  | _ => .error .notText

/-- An integer, or what spells or equals one. -/
def int? : Datum → Except Violation Int
  | .int n => .ok n
  | .bool b => .ok (if b then 1 else 0)
  | .real x => wholeInt? x
  | .text s => spelledInt? s
  | _ => .error .notInt

/-- The truth value that an integer stands for. One that does not fit into a word stands for
nothing. -/
def intBool? (n : Int) : Except Violation Bool :=
  if n = 1 then .ok true
  else if n = 0 then .ok false
  else if -(wordLimit : Int) ≤ n ∧ n < wordLimit then .error .unreadableBool
  else .error .notBool

/-- A truth value, or what spells or stands for one. -/
def bool? : Datum → Except Violation Bool
  | .bool b => .ok b
  | .text s => spelledBool? s
  | .int n => intBool? n
  | .real x =>
    match wholeInt? x with
    | .ok n => intBool? n
    | .error _ => .error .notBool
  | _ => .error .notBool

end Datum

end ReversePolish
