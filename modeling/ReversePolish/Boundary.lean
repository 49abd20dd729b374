import ReversePolish.Conversion
import ReversePolish.Evaluation
import ReversePolish.Token.Check

/-!
# Results that are handed on

Inside the library any record may be a token. Where tokens leave it as part of a result, each of
them is put to the rule of its kind, and a result with an ill-formed token is refused as a whole.
A fault of the expression goes before such a refusal.

## Main definitions

* `convertChecked`: a conversion whose tokens are well formed.
* `traceChecked`: an evaluation whose tokens are well formed.
* `Diagnosis.ofDatum`: class and wording of a fault, given as a record.
-/

namespace ReversePolish

/-- The outcome of a conversion, if no ill-formed token is part of it. -/
def convertChecked (ts : List Token) : Checked (Except Fault (List Token)) :=
  match convert ts with
  | .ok result => (Token.checkAll "tokens" result).map .ok
  | .error fault => .ok (.error fault)

/-- The stand-in for a failed conversion, or its result if that has no ill-formed token. -/
def convertOrSentinelChecked (ts : List Token) : Checked (List Token) :=
  (convertChecked ts).map fun
    | .ok result => result
    | .error _ => [Token.sentinel]

/-- Value and steps of a sequence, if it has no ill-formed token. -/
def traceChecked (ts : List Token) : Except Fault (Checked Trace) :=
  (trace ts).map fun result => (Token.checkAll "postfix" ts).map fun _ => result

/-- The class that a datum names. -/
def FaultCode.ofDatum : Datum → Except Violation FaultCode
  | .text s =>
    match FaultCode.ofName? s with
    | some code => .ok code
    | none => .error .notLiteral
  | _ => .error .notLiteral

/-- The diagnosis that a record gives. -/
def Diagnosis.ofDatum (datum : Datum) : Checked Diagnosis :=
  let code := Token.checkField datum "code" (.error .missing) FaultCode.ofDatum
  let message := Token.checkField datum "message" (.error .missing) Datum.text?
  (code.both message).map fun (code, message) => { code, message }

end ReversePolish
