import ReversePolish.Text.Quoted
import ReversePolish.Token

/-!
# Lexemes

Which text fits which kind of token. A number is written with ASCII digits and at most one point
between digits; an operator or parenthesis is its symbol; an invalid token may have any text.

## Main definitions

* `Lexeme.isNumber`: the written numbers.
* `LexemeFault`: why a text does not fit.
* `Token.lexemeFault?`: the rule; `Token.WellFormed`: the tokens that keep it.
-/

namespace ReversePolish

namespace Lexeme

/-- Whether the text is one or more digits, and nothing or a point with one or more digits after
them. -/
def isNumber (cs : List Char) : Bool :=
  let whole := cs.takeWhile (· ≠ '.')
  !whole.isEmpty && whole.all Char.isDigit &&
    match cs.dropWhile (· ≠ '.') with
    | [] => true
    | _ :: fraction => !fraction.isEmpty && fraction.all Char.isDigit

/-- Whether the text is the symbol of the kind. -/
def isSymbol (kind : Kind) : List Char → Bool
  | [c] => Kind.ofSymbol? c = some kind
  | _ => false

end Lexeme

/-- Why a text does not fit a kind. -/
inductive LexemeFault where
  /-- The kind needs a text and has none. -/
  | empty (kind : Kind)
  /-- The text is not a number. -/
  | notNumber (text : String)
  /-- The text is not the symbol of the kind. -/
  | notSymbol (text : String) (kind : Kind)
  deriving DecidableEq, Repr

namespace LexemeFault

/-- The fault in words. -/
def message : LexemeFault → String
  | .empty kind => "Token " ++ kind.name ++ " wymaga niepustego lexemu"
  | .notNumber text => "Niepoprawna liczba: " ++ Text.quoted text
  | .notSymbol text kind => "Lexem " ++ Text.quoted text ++ " nie pasuje do " ++ kind.name

end LexemeFault

namespace Token

/-- What is wrong with the text of the token, if anything. -/
def lexemeFault? (t : Token) : Option LexemeFault :=
  match t.kind with
  | .invalid => none
  | .number _ =>
    if t.text = "" then some (.empty t.kind)
    else if Lexeme.isNumber t.text.toList then none
    else some (.notNumber t.text)
  | kind =>
    if t.text = "" then some (.empty kind)
    else if Lexeme.isSymbol kind t.text.toList then none
    else some (.notSymbol t.text kind)

/-- The text of the token fits its kind. -/
def WellFormed (t : Token) : Prop :=
  t.lexemeFault? = none

/-- Whether a token is well formed is decidable. -/
instance (t : Token) : Decidable t.WellFormed :=
  inferInstanceAs (Decidable (t.lexemeFault? = none))

end Token

end ReversePolish
