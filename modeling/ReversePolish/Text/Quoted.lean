import ReversePolish.Text.Printable

/-!
# Quoted text

The form in which messages show a piece of an expression. It stands between single quotes, or
between double quotes where the text has a single quote and no double one. The quote in use and the
backslash are escaped, and so is each character without a picture of its own.

## Main definitions

* `quoteFor`: the quote that a text is put between.
* `escaped`: one character inside the quotes.
* `quoted`: the whole.
-/

namespace ReversePolish.Text

/-- The quote around a text: single, unless only the single one occurs in it. -/
def quoteFor (cs : List Char) : Char :=
  if '\x27' ∈ cs ∧ '\x22' ∉ cs then '\x22' else '\x27'

/-- The number in hexadecimal, in lower case, with at least `width` digits. -/
def hexadecimal (width n : Nat) : List Char :=
  (Nat.toDigits 16 n).leftpad width '0'

/-- A code point as an escape: the shortest of the forms with two, four and eight digits that has
room for it. -/
def codeEscape (n : Nat) : List Char :=
  if n < 0x100 then '\\' :: 'x' :: hexadecimal 2 n
  else if n < 0x10000 then '\\' :: 'u' :: hexadecimal 4 n
  else '\\' :: 'U' :: hexadecimal 8 n

/-- A character between quotes of the given kind. -/
def escaped (quote c : Char) : List Char :=
  if c = quote ∨ c = '\\' then ['\\', c]
  else if c = '\n' then ['\\', 'n']
  else if c = '\r' then ['\\', 'r']
  else if c = '\t' then ['\\', 't']
  else if isPrintable c then [c]
  else codeEscape c.toNat

/-- The characters between quotes, escaped where needed. -/
def quotedChars (cs : List Char) : List Char :=
  quoteFor cs :: (cs.flatMap (escaped (quoteFor cs)) ++ [quoteFor cs])

/-- The text between quotes, escaped where needed. -/
def quoted (s : String) : String :=
  String.ofList (quotedChars s.toList)

@[simp]
theorem toList_quoted (s : String) : (quoted s).toList = quotedChars s.toList := by
  simp [quoted]

example : quoted "a\tb" = "'a\\tb'" := by decide +kernel

example : quoted "it's" = "\"it's\"" := by decide +kernel

example : quoted "\u00a0é\u200b" = "'\\xa0é\\u200b'" := by decide +kernel

end ReversePolish.Text
