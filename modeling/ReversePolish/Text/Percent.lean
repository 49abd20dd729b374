/-!
# Percent escapes

A percent sign with two hexadecimal digits stands for the byte of that value. Undoing the escapes
of a text gives the characters of ASCII that they stand for. What bytes beyond ASCII stand for is
not told: each of them gives the replacement character.

## Main definitions

* `hexValue?`: the value of a hexadecimal digit.
* `unescape`: a text with its escapes undone.
-/

namespace ReversePolish.Text

/-- The value of a hexadecimal digit, of either case. -/
def hexValue? (c : Char) : Option Nat :=
  if c.isDigit then some (c.toNat - '0'.toNat)
  else if 'a' ≤ c ∧ c ≤ 'f' then some (c.toNat - 'a'.toNat + 10)
  else if 'A' ≤ c ∧ c ≤ 'F' then some (c.toNat - 'A'.toNat + 10)
  else none

/-- The character that a byte stands for. -/
def charOfByte (byte : Nat) : Char :=
  if byte < 0x80 then Char.ofNat byte else '\uFFFD'

/-- A text with its escapes undone. A percent sign without two hexadecimal digits is no escape. -/
def unescape : List Char → List Char
  | '%' :: a :: b :: rest =>
    match hexValue? a, hexValue? b with
    | some high, some low => charOfByte (16 * high + low) :: unescape rest
    | _, _ => '%' :: unescape (a :: b :: rest)
  | c :: rest => c :: unescape rest
  | [] => []

example : String.ofList (unescape "%2f%%41%4%C3".toList) = "/%A%4\uFFFD" := by decide +kernel

end ReversePolish.Text
