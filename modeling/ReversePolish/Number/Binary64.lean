/-!
# Double precision

The non-negative doubles in increasing order are the numbers `0, 1, 2, …` read as bit patterns:
zero, the subnormal and the normal doubles, then infinity. This module gives the exact value of a
pattern and, in exact arithmetic, the pattern nearest to a quotient of natural numbers.

## Main definitions

* `scaled`: a number times a power.
* `significand`, `exponent`: the value of pattern `k` is `significand k * 2 ^ exponent k`.
* `numerator`, `denominator`: the same value as a quotient.
* `nearest`: the pattern nearest to a quotient, a tie going to the even pattern.
* `ofDecimal`: the pattern nearest to `digits * 10 ^ exponent`.
* `signed`: the double with a sign and a pattern.
* `Magnitude`, `Magnitude.ofFloat`: what a double stands for.
-/

namespace ReversePolish

namespace Binary64

/-- What the leading bit of a significand counts, `2 ^ 52`. -/
def leadingBit : Nat := 0x10000000000000

/-- The bit in front of a pattern that makes a double negative, `2 ^ 63`. -/
def signBit : Nat := 0x8000000000000000

/-- The pattern of infinity; the patterns below it are the finite magnitudes. -/
def infinity : Nat := 2047 * leadingBit

/-- `n * base ^ e`, where `e` is not negative, and otherwise `n`. A quotient is multiplied by a
power of either sign by scaling one of its parts by `e` and the other by `-e`. -/
def scaled (base n : Nat) (e : Int) : Nat :=
  n * Nat.pow base e.toNat

/-- The integer factor of the value of a pattern. A normal double has a leading bit that its
pattern does not store. -/
def significand (k : Nat) : Nat :=
  if k < leadingBit then k else leadingBit + k % leadingBit

/-- The power of two in the value of a pattern. The subnormal doubles share the least one. -/
def exponent (k : Nat) : Int :=
  if k < leadingBit then -1074 else (k / leadingBit : Nat) - 1075

/-- The value of a pattern is `numerator k / denominator k`. -/
def numerator (k : Nat) : Nat :=
  scaled 2 (significand k) (exponent k)

/-- A power of two. -/
def denominator (k : Nat) : Nat :=
  scaled 2 1 (-exponent k)

/-- Scaling a positive number gives one. -/
theorem scaled_pos {base n : Nat} (hbase : 0 < base) (hn : 0 < n) (e : Int) :
    0 < scaled base n e :=
  Nat.mul_pos hn (Nat.pow_pos hbase)

theorem denominator_pos (k : Nat) : 0 < denominator k :=
  scaled_pos (by decide) (by decide) _

/-- The quotient rounded to the nearest natural number, a half to the even neighbour. -/
def roundHalfEven (num den : Nat) : Nat :=
  if 2 * (num % den) < den then num / den
  else if den < 2 * (num % den) then num / den + 1
  else num / den + num / den % 2

/-- The greatest `e` with `2 ^ e ≤ num / den`, for a positive quotient. -/
def floorLog2 (num den : Nat) : Int :=
  let estimate : Int := (Nat.log2 num : Int) - Nat.log2 den
  if scaled 2 den estimate ≤ scaled 2 num (-estimate) then estimate else estimate - 1

/-- The power of two that the significand of a quotient is counted in: one that leaves 53 bits,
but never less than the least one. -/
def scale (num den : Nat) : Int :=
  max (floorLog2 num den - 52) (-1074)

/-- The pattern nearest to `num / den`. Rounding up to the next power of two carries into the
exponent of the pattern, and beyond the greatest double the answer is infinity. -/
def nearest (num den : Nat) : Nat :=
  if num = 0 then 0
  else
    let q := scale num den
    let m := roundHalfEven (scaled 2 num (-q)) (scaled 2 den q)
    min ((q + 1074).toNat * leadingBit + m) infinity

/-- The pattern nearest to `digits * 10 ^ exponent`. From `10 ^ 310` on that is infinity, and below
`10 ^ (-330)` it is zero; between the two the powers stay small enough to be written out. -/
def ofDecimal (digits : Nat) (exponent : Int) : Nat :=
  if digits = 0 then 0
  else if 310 ≤ exponent then infinity
  else if exponent + Nat.log2 digits + 1 ≤ -330 then 0
  else nearest (scaled 10 digits exponent) (scaled 10 1 (-exponent))

/-- The double with the given sign and pattern. -/
def signed (negative : Bool) (k : Nat) : Float :=
  Float.ofBits (UInt64.ofNat (k + if negative then signBit else 0))

/-- The double that is not a number. -/
def notANumber : Float :=
  Float.ofBits 0x7FF8000000000000

end Binary64

/-- What a double stands for. -/
inductive Magnitude where
  /-- The value of a pattern below infinity, with a sign. -/
  | finite (negative : Bool) (pattern : Nat)
  /-- Positive or negative infinity. -/
  | infinite (negative : Bool)
  /-- No number. -/
  | undefined
  deriving DecidableEq, Repr

namespace Magnitude

/-- What the double stands for. -/
def ofFloat (x : Float) : Magnitude :=
  let bits := x.toBits.toNat
  let negative := decide (Binary64.signBit ≤ bits)
  let pattern := bits % Binary64.signBit
  if pattern < Binary64.infinity then .finite negative pattern
  else if pattern = Binary64.infinity then .infinite negative
  else .undefined

/-- Whether it is neither infinite nor undefined. -/
def isFinite : Magnitude → Bool
  | .finite _ _ => true
  | _ => false

end Magnitude

end ReversePolish
