import ReversePolish.Number.Binary64

/-!
# Shortest decimals

The decimal with the fewest digits that reads back as a given double. On the grid of decimals with
`n` significant digits only the two neighbours of the value can be the one that is wanted, so it is
enough to read those two back, for `n = 1, 2, …`; seventeen digits always suffice.

## Main definitions

* `Shortest.leading`: the power of ten of the first digit of a value.
* `Shortest.onGrid?`: the decimal on one grid that reads back as the double.
* `Shortest.decimal`: the decimal with the fewest digits.
-/

namespace ReversePolish.Shortest

/-- How many decimal digits a natural number has. -/
def digitCount (n : Nat) : Nat :=
  (Nat.toDigits 10 n).length

/-- The greatest `p` with `10 ^ p ≤ num / den`, for a positive quotient. -/
def leading (num den : Nat) : Int :=
  if den ≤ num then (digitCount (num / den) : Int) - 1
  else -(digitCount ((den - 1) / num) : Int)

/-- The multiple of `10 ^ unit` that reads back as pattern `k`, if one of the two neighbours of its
value does. Of two the nearer is taken, and in the middle between them the even one. -/
def onGrid? (k : Nat) (unit : Int) : Option Nat :=
  let num := Binary64.scaled 10 (Binary64.numerator k) (-unit)
  let den := Binary64.scaled 10 (Binary64.denominator k) unit
  let below := num / den
  let readsBack := fun (digits : Nat) => Binary64.ofDecimal digits unit = k
  if readsBack below then
    if readsBack (below + 1) then some (Binary64.roundHalfEven num den) else some below
  else if readsBack (below + 1) then some (below + 1)
  else none

/-- All digits of the value of a pattern: its denominator is a power of two, so that a power of ten
clears it. -/
def exact (k : Nat) : Nat × Int :=
  let places := -Binary64.exponent k
  (Binary64.scaled 5 (Binary64.numerator k) places, -(places.toNat : Int))

/-- Digits and power of ten of the shortest decimal that reads back as pattern `k`. -/
def decimal (k : Nat) : Nat × Int :=
  let first := leading (Binary64.numerator k) (Binary64.denominator k)
  let found := (List.range 17).findSome? fun (more : Nat) =>
    (onGrid? k (first - more)).map fun digits => (digits, first - more)
  found.getD (exact k)

end ReversePolish.Shortest
