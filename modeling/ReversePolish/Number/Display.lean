import ReversePolish.Number.Binary64
import ReversePolish.Number.Shortest

/-!
# Numbers as text

Two written forms of a double. The full form has the fewest digits that read back as the same
double, and tells a double from an integer by a point or an exponent. The plain form writes a double
without a fractional part as the integer it is, with all its digits.

## Main definitions

* `Number.Layout`: where positional writing ends, and how an exponent is written.
* `Number.full`: the full form, such as `3.0` or `1e+16`.
* `Number.plain`: the plain form, such as `3` or `10000000000000000`.
-/

namespace ReversePolish.Number

/-- How the digits of a decimal are laid out. -/
structure Layout where
  /-- The least power of ten of the first digit that is written positionally. -/
  least : Int
  /-- The least power of ten above it from which an exponent is written again. -/
  bound : Int
  /-- The least number of digits of an exponent. -/
  exponentDigits : Nat

/-- Positional from `0.0001` up to below `10 ^ 16`, and exponents with at least two digits. -/
def layout : Layout where
  least := -4
  bound := 16
  exponentDigits := 2

/-- The digits with a point among them, after the digit of power zero, and with zeros where the
digits do not reach it. `power` is the power of ten of the first digit. -/
def positional (digits : List Char) (power : Int) : List Char :=
  if power < 0 then '0' :: '.' :: (List.replicate (-power - 1).toNat '0' ++ digits)
  else
    let size := power.toNat + 1
    let fraction := digits.drop size
    (digits.take size).rightpad size '0' ++
      '.' :: (if fraction.isEmpty then ['0'] else fraction)

/-- The digits with a point after the first, if there are more, and the power of ten of the
first. -/
def scientific (style : Layout) (digits : List Char) (power : Int) : List Char :=
  let tail := digits.drop 1
  digits.take 1 ++ (if tail.isEmpty then [] else '.' :: tail) ++
    'e' :: (if power < 0 then '-' else '+') ::
      (Nat.toDigits 10 power.natAbs).leftpad style.exponentDigits '0'

/-- The decimal `digits * 10 ^ exponent` in the given layout, without zeros at its end. -/
def written (style : Layout) (digits : Nat) (exponent : Int) : List Char :=
  let all := Nat.toDigits 10 digits
  let kept := (all.reverse.dropWhile (· = '0')).reverse
  let power := exponent + all.length - 1
  if style.least ≤ power && power < style.bound then positional kept power
  else scientific style kept power

/-- A minus in front of a negative number. -/
def withSign (negative : Bool) (cs : List Char) : List Char :=
  if negative then '-' :: cs else cs

/-- The full form of the magnitude of pattern `k`. -/
def fullMagnitude (k : Nat) : List Char :=
  if k = 0 then ['0', '.', '0']
  else
    let (digits, exponent) := Shortest.decimal k
    written layout digits exponent

/-- Whether the value of pattern `k` has no fractional part. -/
def isWhole (k : Nat) : Bool :=
  Binary64.numerator k % Binary64.denominator k = 0

/-- The value of pattern `k` without its fractional part. -/
def wholePart (k : Nat) : Nat :=
  Binary64.numerator k / Binary64.denominator k

/-- The characters of the full form. -/
def fullChars (x : Float) : List Char :=
  match Magnitude.ofFloat x with
  | .finite negative k => withSign negative (fullMagnitude k)
  | .infinite negative => withSign negative ['i', 'n', 'f']
  | .undefined => ['n', 'a', 'n']

/-- The characters of the plain form. Negative zero is written without its sign. -/
def plainChars (x : Float) : List Char :=
  match Magnitude.ofFloat x with
  | .finite negative k =>
    if isWhole k then withSign (negative && k != 0) (Nat.toDigits 10 (wholePart k))
    else withSign negative (fullMagnitude k)
  | _ => fullChars x

/-- The fewest digits that read back as the same double, with a point or an exponent. -/
def full (x : Float) : String :=
  String.ofList (fullChars x)

/-- All digits of a whole number; the full form of any other double. -/
def plain (x : Float) : String :=
  String.ofList (plainChars x)

@[simp]
theorem toList_plain (x : Float) : (plain x).toList = plainChars x := by
  simp [plain]

example : full 3 = "3.0" ∧ full 0.0001 = "0.0001" ∧ full 0.00001 = "1e-05" := by decide +kernel

example : full 1e15 = "1000000000000000.0" ∧ full 1e16 = "1e+16" := by decide +kernel

example : full (-0.0) = "-0.0" ∧ plain (-0.0) = "0" ∧ plain 2.75 = "2.75" := by decide +kernel

example : full (0.1 + 0.2) = "0.30000000000000004" := by decide +kernel

example : full (1 / 0) = "inf" ∧ plain (-1 / 0) = "-inf" ∧ plain (0 / 0) = "nan" := by
  decide +kernel

end ReversePolish.Number
