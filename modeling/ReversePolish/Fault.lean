import ReversePolish.Text.Quoted
import ReversePolish.Token

/-!
# Faults of expressions

All causes for which an expression is refused, each with the tokens or characters that show it. The
wording and the class of a fault are functions of its cause.

## Main definitions

* `FaultCode`: the five classes of faults.
* `Fault`: the causes, from reading characters, from conversion and from evaluation.
* `Fault.code`, `Fault.message`: the class and the wording of a cause.
* `Diagnosis`: class and wording alone, as they are handed on to others.
-/

namespace ReversePolish

/-- The classes of faults. The first one is the general class. -/
inductive FaultCode where
  | invalidExpression
  | unbalancedParentheses
  | malformedOperatorPlacement
  | operandUnderflow
  | unrecognizedToken
  deriving DecidableEq, Repr

namespace FaultCode

/-- The written name of a class. -/
def name : FaultCode → String
  | .invalidExpression => "INVALID_EXPRESSION"
  | .unbalancedParentheses => "UNBALANCED_PARENTHESES"
  | .malformedOperatorPlacement => "MALFORMED_OPERATOR_PLACEMENT"
  | .operandUnderflow => "OPERAND_UNDERFLOW"
  | .unrecognizedToken => "UNRECOGNIZED_TOKEN"

/-- All classes. -/
def all : List FaultCode :=
  [.invalidExpression, .unbalancedParentheses, .malformedOperatorPlacement, .operandUnderflow,
    .unrecognizedToken]

/-- The class of a written name. -/
def ofName? (s : String) : Option FaultCode :=
  all.find? fun code => code.name = s

end FaultCode

/-- Why an expression is refused. -/
inductive Fault where
  /-- A character that begins no lexeme, where such characters are refused at once. -/
  | unrecognizedCharacter (c : Char) (position : Nat)
  /-- An invalid token in an expression that is to be converted. -/
  | unsupported (token : Token)
  /-- A right parenthesis without a left one. -/
  | unmatched (paren : Token)
  /-- A left parenthesis without a right one. -/
  | unclosed (paren : Token)
  /-- There is nothing to evaluate. -/
  | nothing
  /-- The sequence to evaluate begins with an invalid token. -/
  | rejected (token : Token)
  /-- The sequence to evaluate begins with an operator. -/
  | leadingOperator (token : Token)
  /-- A number whose text cannot be read. -/
  | unreadableNumber (token : Token)
  /-- A token that is neither a number nor an operator. -/
  | unexpected (token : Token)
  /-- An operator that finds fewer than two operands. -/
  | missingOperand (operator : Token) (found : Nat)
  /-- The number of operands that are left at the end, where it is not one. -/
  | leftover (count : Nat)
  deriving DecidableEq, Repr

/-- What is said of a character that begins no lexeme. -/
def unrecognizedText (c : Char) (position : Nat) : String :=
  "unrecognized character " ++ Text.quoted (String.singleton c) ++ " at position " ++
    toString position

/-- A position as messages write it. -/
def positionText : Option Int → String
  | some position => toString position
  | none => "None"

namespace Fault

/-- The class of a cause. -/
def code : Fault → FaultCode
  | .unrecognizedCharacter _ _ => .unrecognizedToken
  | .unsupported _ => .unrecognizedToken
  | .unmatched _ => .unbalancedParentheses
  | .unclosed _ => .unbalancedParentheses
  | .nothing => .invalidExpression
  | .rejected _ => .invalidExpression
  | .leadingOperator _ => .malformedOperatorPlacement
  | .unreadableNumber _ => .unrecognizedToken
  | .unexpected _ => .unrecognizedToken
  | .missingOperand _ _ => .operandUnderflow
  | .leftover _ => .malformedOperatorPlacement

/-- A detail after the general message. -/
def detailed (detail : String) : String :=
  Token.failureMessage ++ ": " ++ detail

/-- The cause in words. -/
def message : Fault → String
  | .unrecognizedCharacter c position => unrecognizedText c position
  | .unsupported token =>
    detailed (token.remark?.getD ("unsupported token " ++ Text.quoted token.display))
  | .unmatched paren => detailed ("unmatched ')' at position " ++ positionText paren.position)
  | .unclosed paren => detailed ("unclosed '(' at position " ++ positionText paren.position)
  | .nothing => detailed "empty postfix sequence"
  | .rejected token => token.remark?.getD Token.failureMessage
  | .leadingOperator token =>
    detailed ("postfix starts with operator " ++ Text.quoted token.text)
  | .unreadableNumber token => detailed ("malformed number " ++ Text.quoted token.text)
  | .unexpected token =>
    detailed ("unexpected " ++ token.kind.name ++ " token " ++ Text.quoted token.display)
  | .missingOperand token found =>
    detailed ("operator " ++ Text.quoted token.text ++ " needs two operands, found " ++
      toString found)
  | .leftover count => detailed (toString count ++ " operands left without an operator")

end Fault

/-- Class and wording of a fault, without its cause. -/
structure Diagnosis where
  /-- The class of the fault. -/
  code : FaultCode
  /-- Its wording. -/
  message : String
  deriving DecidableEq, Repr

/-- Class and wording of a fault. -/
def Fault.diagnosis (fault : Fault) : Diagnosis where
  code := fault.code
  message := fault.message

end ReversePolish
