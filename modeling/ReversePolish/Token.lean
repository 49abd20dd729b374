/-!
# Tokens

The tokens of an arithmetic expression, before and after its conversion to reverse Polish notation.
A token is a plain record: its kind, the text it stands for, and what is known of its origin.
Whether the text fits the kind is the rule of `ReversePolish.Token.Lexeme`; it is not built into the
type, since tokens come from outside as well.

## Main definitions

* `Operator`, `NumberKind`, `Kind`: what a token is.
* `Kind.name`, `Kind.ofName?`: the written names of the kinds.
* `Kind.precedence`, `Kind.associativity`: how the kinds bind.
* `Token`, with `Token.display` and `Token.sentinel`.
-/

namespace ReversePolish

/-- The four binary operators. -/
inductive Operator where
  | add
  | sub
  | mul
  | div
  deriving DecidableEq, Repr

/-- The two spellings of a number: without and with a fractional part. -/
inductive NumberKind where
  | integer
  | float
  deriving DecidableEq, Repr

/-- What a token is. -/
inductive Kind where
  | number (spelling : NumberKind)
  | operator (op : Operator)
  | leftParen
  | rightParen
  /-- A character that begins no lexeme, or a stand-in for a failed conversion. -/
  | invalid
  deriving DecidableEq, Repr

/-- On which side operators of equal precedence are grouped. -/
inductive Associativity where
  | left
  | none
  deriving DecidableEq, Repr

namespace Associativity

/-- The written name. -/
def name : Associativity → String
  | .left => "LEFT"
  | .none => "NONE"

end Associativity

namespace Kind

/-- The written name of a kind. -/
def name : Kind → String
  | .number .integer => "INTEGER"
  | .number .float => "FLOAT"
  | .operator .add => "ADD"
  | .operator .sub => "SUB"
  | .operator .mul => "MUL"
  | .operator .div => "DIV"
  | .leftParen => "LEFT_PAREN"
  | .rightParen => "RIGHT_PAREN"
  | .invalid => "INVALID"

/-- All kinds. -/
def all : List Kind :=
  [.number .integer, .number .float, .operator .add, .operator .sub, .operator .mul,
    .operator .div, .leftParen, .rightParen, .invalid]

/-- The kind of a written name. -/
def ofName? (s : String) : Option Kind :=
  all.find? fun kind => kind.name = s

theorem ofName?_name (kind : Kind) : ofName? kind.name = some kind := by
  rcases kind with (_ | _) | (_ | _ | _ | _) | _ | _ | _ <;> decide

/-- The kind of a character that is a lexeme by itself. -/
def ofSymbol? : Char → Option Kind
  | '+' => some (.operator .add)
  | '-' => some (.operator .sub)
  | '*' => some (.operator .mul)
  | '/' => some (.operator .div)
  | '(' => some .leftParen
  | ')' => some .rightParen
  | _ => none

/-- Whether the kind is a spelling of numbers. -/
def isNumber : Kind → Bool
  | .number _ => true
  | _ => false

/-- Whether the kind is an operator. -/
def isOperator : Kind → Bool
  | .operator _ => true
  | _ => false

/-- The rank of the kinds that do not bind. -/
def guardPrecedence : Nat := 9999

/-- How tightly a kind binds. Products bind tighter than sums. -/
def precedence : Kind → Nat
  | .operator .add => 2
  | .operator .sub => 2
  | .operator .mul => 3
  | .operator .div => 3
  | _ => guardPrecedence

/-- Operators are grouped from the left. -/
def associativity : Kind → Associativity
  | .operator _ => .left
  | _ => .none

end Kind

/-- A token. -/
structure Token where
  /-- What the token is. -/
  kind : Kind
  /-- The characters it stands for. -/
  text : String := ""
  /-- What is wrong with it, if it is invalid. -/
  message : Option String := none
  /-- The number of characters before it in the expression it was read from. -/
  position : Option Int := none
  deriving DecidableEq, Repr

namespace Token

/-- Whether the token is a number. -/
def isNumber (t : Token) : Bool :=
  t.kind.isNumber

/-- Whether the token is an operator. -/
def isOperator (t : Token) : Bool :=
  t.kind.isOperator

/-- The message, unless it is absent or empty. -/
def remark? (t : Token) : Option String :=
  t.message.filter (· ≠ "")

/-- What to show for the token: its text, and without one its message. -/
def display (t : Token) : String :=
  if t.text = "" then t.message.getD "" else t.text

/-- The message of a token that stands for a failed conversion. -/
def failureMessage : String := "invalid expression"

/-- The token that stands in the place of a failed conversion. -/
def sentinel : Token where
  kind := .invalid
  message := some failureMessage

end Token

end ReversePolish
