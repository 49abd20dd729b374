/-!
# Blank characters

Three nested sets of characters that a reader may pass over, and the removal of blanks from the
ends of a text.

## Main definitions

* `isLayout`: the six ASCII characters that may separate the lexemes of an expression.
* `isWhiteSpace`: the Unicode property `White_Space`.
* `isBlank`: white space, or one of the four ASCII information separators.
* `trim`: a text without the blanks at its two ends.
-/

namespace ReversePolish.Text

/-- Space, tab, line feed, vertical tab, form feed or carriage return. -/
def isLayout (c : Char) : Bool :=
  c.toNat = 0x20 || (0x09 ≤ c.toNat && c.toNat ≤ 0x0D)

/-- The Unicode property `White_Space`: layout, and the spaces and separators beyond ASCII. -/
def isWhiteSpace (c : Char) : Bool :=
  isLayout c || c.toNat = 0x85 || c.toNat = 0xA0 || c.toNat = 0x1680 ||
    (0x2000 ≤ c.toNat && c.toNat ≤ 0x200A) || c.toNat = 0x2028 || c.toNat = 0x2029 ||
    c.toNat = 0x202F || c.toNat = 0x205F || c.toNat = 0x3000

/-- White space, or an information separator (`U+001C` to `U+001F`). -/
def isBlank (c : Char) : Bool :=
  isWhiteSpace c || (0x1C ≤ c.toNat && c.toNat ≤ 0x1F)

/-- Characters without those of `p` at the two ends. -/
def trimBy (p : Char → Bool) (cs : List Char) : List Char :=
  ((cs.dropWhile p).reverse.dropWhile p).reverse

/-- A text without the blanks at its two ends. -/
def trim (s : String) : String :=
  String.ofList (trimBy isBlank s.toList)

@[simp]
theorem toList_trim (s : String) : (trim s).toList = trimBy isBlank s.toList := by
  simp [trim]

end ReversePolish.Text
