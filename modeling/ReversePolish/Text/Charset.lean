/-!
# Character sets of an output

What a terminal or file can hold. A character outside the set is shown as a question mark.
-/

namespace ReversePolish

/-- A set of characters that an output can hold. -/
inductive Charset where
  /-- The 128 characters of ASCII. -/
  | ascii
  /-- The first 256 characters of Unicode. -/
  | latin1
  /-- All of Unicode. -/
  | unicode
  deriving DecidableEq, Repr

namespace Charset

/-- Whether the character is in the set. -/
def holds : Charset → Char → Bool
  | .ascii, c => c.toNat < 0x80
  | .latin1, c => c.toNat < 0x100
  | .unicode, _ => true

/-- An arrow is drawn as `->`, so that it can be shown anywhere. -/
def spellArrow (c : Char) : List Char :=
  if c = '→' then ['-', '>'] else [c]

/-- The text as the output shows it: arrows spelled out, then a question mark for each character
outside the set. -/
def shown (charset : Charset) (s : String) : String :=
  String.ofList
    ((s.toList.flatMap spellArrow).map fun c => if charset.holds c then c else '?')

end Charset

end ReversePolish
