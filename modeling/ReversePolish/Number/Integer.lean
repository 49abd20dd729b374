import ReversePolish.Text.Blank

/-!
# Integers in texts

Reading an integer of any size from a text. Between white space stands an optional sign, then
decimal digits, then perhaps a fraction of zeros. Single low lines may stand between digits. Zeros
may go before, with low lines among them in any number, and they may also go before a minus.

## Main definitions

* `Integer.Fault`: why a text gives no integer.
* `Integer.withoutZeros?`, `Integer.withoutFraction`, `Integer.withoutLowLines`: a numeral without
  what may be left out of it.
* `Integer.plain?`: the integer of a numeral in its plain form.
* `Integer.spelled?`: the integer that characters spell.
* `Integer.read?`: the integer that a text spells, or what is wrong with it.
-/

namespace ReversePolish.Integer

/-- Why a text gives no integer. -/
inductive Fault where
  /-- It spells none. -/
  | malformed
  /-- It has too many digits. -/
  | oversized
  deriving DecidableEq, Repr

/-- The greatest number of digits that are read. -/
def digitLimit : Nat := 4300

/-- The number that ASCII digits write. -/
def ofDigits (cs : List Char) : Nat :=
  cs.foldl (fun n c => 10 * n + (c.toNat - '0'.toNat)) 0

/-- What is left of a numeral after zeros and low lines, the last of which was `last`. It stays
where a point follows or nothing. -/
def afterZeros? (last : Char) : List Char → Option (List Char)
  | [] => some [last]
  | c :: rest =>
    if c = '0' ∨ c = '_' then afterZeros? c rest
    else if c.isDigit ∨ c = '-' then some (c :: rest)
    else if c = '.' then some (last :: c :: rest)
    else none

/-- A numeral without the zeros in front of it. It has to begin with a digit. -/
def withoutZeros? : List Char → Option (List Char)
  | [] => none
  | c :: rest =>
    if c = '0' then afterZeros? c rest else if c.isDigit then some (c :: rest) else none

/-- A numeral without a point that one or more zeros follow, and nothing else. -/
def withoutFraction (cs : List Char) : List Char :=
  match cs.dropWhile (· ≠ '.') with
  | _ :: d :: fraction =>
    if (d :: fraction).all (· = '0') then cs.takeWhile (· ≠ '.') else cs
  | _ => cs

/-- Whether two low lines stand side by side. -/
def hasDoubleLowLine : List Char → Bool
  | '_' :: '_' :: _ => true
  | _ :: rest => hasDoubleLowLine rest
  | [] => false

/-- A numeral without its low lines, if each of them stands alone and none at an end. -/
def withoutLowLines (cs : List Char) : List Char :=
  if cs.head? = some '_' ∨ cs.getLast? = some '_' ∨ hasDoubleLowLine cs then cs
  else cs.filter (· ≠ '_')

/-- The number of a numeral in plain form: digits, but not too many of them, and no zero before
another digit. -/
def plainNatural? (cs : List Char) : Option Nat :=
  if cs = ['0'] then some 0
  else if cs = [] ∨ cs.head? = some '0' ∨ !cs.all Char.isDigit ∨ digitLimit < cs.length then none
  else some (ofDigits cs)

/-- The integer of a numeral in plain form, after a minus if `negative` holds. Only one minus may
stand before a number. -/
def plain? (negative : Bool) (cs : List Char) : Option Int :=
  match negative, cs with
  | false, '-' :: rest => (plainNatural? rest).map fun n => -(n : Int)
  | false, cs => (plainNatural? cs).map fun n => (n : Int)
  | true, cs => (plainNatural? cs).map fun n => -(n : Int)

/-- The integer of a numeral without sign, after a minus if `negative` holds. -/
def unsigned? (negative : Bool) (cs : List Char) : Option Int :=
  (withoutZeros? cs).bind fun body => plain? negative (withoutLowLines (withoutFraction body))

/-- The integer that the characters spell, if they spell one. -/
def spelled? (cs : List Char) : Option Int :=
  match Text.trimBy Text.isWhiteSpace cs with
  | '-' :: rest => unsigned? true rest
  | '+' :: rest => unsigned? false rest
  | rest => unsigned? false rest

/-- Whether the characters begin with a number of too many digits, before which at most a minus
stands. Where anything else stands in front, such a number is malformed like any other. -/
def isOversized (cs : List Char) : Bool :=
  let digits := (if cs.head? = some '-' then cs.drop 1 else cs).takeWhile Char.isDigit
  digits.head? ≠ some '0' && digitLimit < digits.length

/-- The integer that the characters spell. -/
def readChars? (cs : List Char) : Except Fault Int :=
  match spelled? cs with
  | some n => .ok n
  | none => .error (if isOversized cs then .oversized else .malformed)

/-- The integer that the text spells. -/
def read? (s : String) : Except Fault Int :=
  readChars? s.toList

example : (read? " -01_000.00\n").toOption = some (-1000) := by decide +kernel

example : (read? "0__7").toOption = some 7 ∧ (read? "0_-7").toOption = some (-7) := by
  decide +kernel

example : ∀ s ∈ ["7__0", "7.", "-0-7", "+-7", "0_", ""], (read? s).toOption = none := by
  decide +kernel

end ReversePolish.Integer
