import ReversePolish.Number.Binary64
import ReversePolish.Number.Integer
import ReversePolish.Text.DecimalDigit

/-!
# Numerals

Reading a double from a text. Between blanks stands an optional sign, then `inf`, `infinity` or
`nan` in any case, or a decimal numeral: digits with at most one point among or beside them, then
perhaps an exponent. The digits may be those of any script, and a single low line may stand between
two of them.

## Main definitions

* `Numeral.normal`: the text in ASCII digits and without blanks at its ends.
* `Numeral.joinDigits?`: the text without low lines, if each stands between two digits.
* `Numeral.decimal?`: digits and power of ten of an unsigned decimal numeral.
* `Numeral.isInteger`: whether a text is a numeral without point and exponent.
* `Numeral.read?`: the double nearest to the numeral, if the text is one.
-/

namespace ReversePolish.Numeral

open Text

/-- The character in ASCII, where it is a digit of another script or a space beyond ASCII. -/
def normalChar (c : Char) : Char :=
  if c.toNat < 0x80 then c
  else if isWhiteSpace c then ' '
  else
    match digitValue? c with
    | some v => Char.ofNat (0x30 + v)
    | none => c

/-- The text in ASCII digits and without blanks at its ends. -/
def normal (cs : List Char) : List Char :=
  trimBy isLayout (cs.map normalChar)

/-- The text without low lines, if each of them stands between two digits. `afterDigit` tells
whether a digit stands just before the text. -/
def joinDigits? (afterDigit : Bool) : List Char → Option (List Char)
  | [] => some []
  | '_' :: rest =>
    match rest with
    | [] => none
    | d :: _ => if afterDigit && d.isDigit then joinDigits? false rest else none
  | c :: rest => (joinDigits? c.isDigit rest).map (c :: ·)

/-- One or more ASCII digits, read as a number. -/
def natural? (cs : List Char) : Option Nat :=
  if !cs.isEmpty && cs.all Char.isDigit then some (Integer.ofDigits cs) else none

/-- Splits a sign off the front: whether it is a minus, and the rest. -/
def splitSign : List Char → Bool × List Char
  | '-' :: rest => (true, rest)
  | '+' :: rest => (false, rest)
  | cs => (false, cs)

/-- Whether the characters write an integer: digits in the same forms, perhaps with a sign. -/
def isInteger (cs : List Char) : Bool :=
  match joinDigits? false (normal cs) with
  | some joined => (natural? (splitSign joined).2).isSome
  | none => false

/-- The exponent after the digits of a numeral: none, or `e` and an integer. -/
def exponent? : List Char → Option Int
  | [] => some 0
  | c :: rest =>
    if c = 'e' ∨ c = 'E' then
      let (negative, digits) := splitSign rest
      (natural? digits).map fun n => if negative then -(n : Int) else n
    else none

/-- Splits a point and the digits after it off the front. -/
def splitFraction : List Char → List Char × List Char
  | '.' :: rest => (rest.takeWhile Char.isDigit, rest.dropWhile Char.isDigit)
  | cs => ([], cs)

/-- Digits and power of ten of an unsigned decimal numeral. -/
def decimal? (cs : List Char) : Option (Nat × Int) :=
  let whole := cs.takeWhile Char.isDigit
  let (fraction, rest) := splitFraction (cs.dropWhile Char.isDigit)
  if whole.isEmpty && fraction.isEmpty then none
  else (exponent? rest).map fun e => (Integer.ofDigits (whole ++ fraction), e - fraction.length)

/-- The numeral without its sign, as a double of the given sign. -/
def unsigned? (negative : Bool) (cs : List Char) : Option Float :=
  let name := cs.map Char.toLower
  if name = "inf".toList ∨ name = "infinity".toList then
    some (Binary64.signed negative Binary64.infinity)
  else if name = "nan".toList then some Binary64.notANumber
  else (decimal? cs).map fun (digits, e) => Binary64.signed negative (Binary64.ofDecimal digits e)

/-- The double nearest to the numeral that the characters write, if they write one. -/
def readChars? (cs : List Char) : Option Float :=
  (joinDigits? false (normal cs)).bind fun joined =>
    let (negative, body) := splitSign joined
    unsigned? negative body

/-- The double nearest to the numeral that the text writes, if it writes one. -/
def read? (s : String) : Option Float :=
  readChars? s.toList

example : (read? " +1_0.5e-1\n").map Float.toBits = some (1.05 : Float).toBits := by
  decide +kernel

example : (read? "٣٤").map Float.toBits = some (34 : Float).toBits := by decide +kernel

example : (read? "1e400").map Magnitude.ofFloat = some (.infinite false) := by decide +kernel

example : (read? "1__0").isNone ∧ (read? ".").isNone ∧ (read? "1e").isNone := by decide +kernel

end ReversePolish.Numeral
