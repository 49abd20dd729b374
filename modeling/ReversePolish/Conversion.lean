import ReversePolish.Fault
import ReversePolish.Token

/-!
# Conversion to reverse Polish notation

Tokens are taken one by one. A number is emitted at once. An operator waits on a stack until an
operator arrives that binds no tighter, or until its group or the expression ends. A left
parenthesis opens a group on the stack and a right one closes it. Where operators stand is not
looked at: only parentheses and invalid tokens can make a conversion fail.

## Main definitions

* `Conversion`: what is emitted so far, and what waits.
* `Conversion.feed`: the next token; `Conversion.finish`: the end of the expression.
* `convert`: the conversion of a list of tokens.
* `convertOrSentinel`: the same, with a failure put in the place of the result.
-/

namespace ReversePolish

/-- A conversion under way. -/
structure Conversion where
  /-- The tokens emitted so far, the latest first. -/
  emitted : List Token := []
  /-- The operators that wait and the parentheses that are open, the latest first. -/
  pending : List Token := []
  deriving DecidableEq, Repr

/-- Whether a waiting token is emitted before the operator `op` waits on top of it: it is an
operator that binds tighter, or as tight where `op` is grouped from the left. An open parenthesis
stays. -/
def Token.yieldsTo (waiting op : Token) : Bool :=
  waiting.kind ≠ .leftParen &&
    (decide (op.kind.precedence < waiting.kind.precedence) ||
      (op.kind.precedence = waiting.kind.precedence && op.kind.associativity = .left))

/-- Whether the token is not a left parenthesis. -/
def Token.isInside (t : Token) : Bool :=
  t.kind ≠ .leftParen

namespace Conversion

/-- The start of a conversion. -/
def start : Conversion := {}

/-- Emits the token. -/
def emit (state : Conversion) (t : Token) : Conversion :=
  { state with emitted := t :: state.emitted }

/-- Emits the operators that the operator `op` does not pass, and lets it wait. -/
def await (state : Conversion) (op : Token) : Conversion where
  emitted := (state.pending.takeWhile (·.yieldsTo op)).reverse ++ state.emitted
  pending := op :: state.pending.dropWhile (·.yieldsTo op)

/-- Opens a group. -/
def openGroup (state : Conversion) (paren : Token) : Conversion :=
  { state with pending := paren :: state.pending }

/-- Emits the operators of the innermost group and closes it. -/
def closeGroup (state : Conversion) (paren : Token) : Except Fault Conversion :=
  match state.pending.dropWhile Token.isInside with
  | [] => .error (.unmatched paren)
  | _ :: outside =>
    .ok {
      emitted := (state.pending.takeWhile Token.isInside).reverse ++ state.emitted
      pending := outside }

/-- Takes the next token of the expression. -/
def feed (state : Conversion) (t : Token) : Except Fault Conversion :=
  match t.kind with
  | .number _ => .ok (state.emit t)
  | .operator _ => .ok (state.await t)
  | .leftParen => .ok (state.openGroup t)
  | .rightParen => state.closeGroup t
  | .invalid => .error (.unsupported t)

/-- Emits what waits at the end of the expression. The innermost open group, if there is one, is a
fault. -/
def finish (state : Conversion) : Except Fault (List Token) :=
  match state.pending.find? (·.kind = .leftParen) with
  | some paren => .error (.unclosed paren)
  | none => .ok (state.emitted.reverse ++ state.pending)

/-- Takes a list of tokens. -/
def feedAll (state : Conversion) (ts : List Token) : Except Fault Conversion :=
  ts.foldlM feed state

@[simp]
theorem feedAll_nil (state : Conversion) : state.feedAll [] = .ok state := rfl

@[simp]
theorem feedAll_cons (state : Conversion) (t : Token) (ts : List Token) :
    state.feedAll (t :: ts) = (state.feed t).bind (·.feedAll ts) := rfl

/-- Taking two lists in turn is taking them together. -/
theorem feedAll_append (state : Conversion) (ts us : List Token) :
    state.feedAll (ts ++ us) = (state.feedAll ts).bind (·.feedAll us) := by
  induction ts generalizing state with
  | nil => rfl
  | cons t ts ih =>
    rw [List.cons_append, feedAll_cons, feedAll_cons]
    cases state.feed t with
    | error fault => rfl
    | ok next => exact ih next

end Conversion

/-- The tokens in reverse Polish notation. -/
def convert (ts : List Token) : Except Fault (List Token) :=
  (Conversion.start.feedAll ts).bind Conversion.finish

/-- The tokens in reverse Polish notation, or a single stand-in if the conversion fails. -/
def convertOrSentinel (ts : List Token) : List Token :=
  match convert ts with
  | .ok result => result
  | .error _ => [Token.sentinel]

/-- The outcome of a conversion in one line: the texts of its tokens with `separator` between them,
or what is wrong. -/
def render (separator : String) : Except Fault (List Token) → String
  | .ok ts => separator.intercalate (ts.map (·.text))
  | .error fault => fault.message

end ReversePolish
