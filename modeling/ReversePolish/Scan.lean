import ReversePolish.Fault
import ReversePolish.Text.Blank
import ReversePolish.Token

/-!
# Scanning

An expression is cut into lexemes from left to right. At a digit the lexeme is the longest number;
at any other character it is that character. A character that begins no lexeme becomes an invalid
token, or is refused in strict mode. Layout is such a character, unless it is skipped.

## Main definitions

* `Scan.Mode`: whether layout is skipped, and whether invalid tokens are refused.
* `Scan.splitLexeme`: the first lexeme of a text and the rest.
* `Scan.tokenOf`: the token of a lexeme.
* `Scan.tokensFrom`, `Scan.tokens`: the tokens of a text.

## Main statements

* `Scan.splitLexeme_append`: a lexeme and the rest make up the text.
* `Scan.length_splitLexeme_lt`: the rest is shorter, so that scanning ends.
-/

namespace ReversePolish.Scan

/-- How an expression is scanned. -/
structure Mode where
  /-- Layout between lexemes is passed over. -/
  skipLayout : Bool := false
  /-- A character that begins no lexeme is refused at once. -/
  strict : Bool := false
  deriving DecidableEq, Repr

/-- Splits the longest number off the front: the digits, and a point with the digits after it if
there are any. -/
def splitNumber (cs : List Char) : List Char × List Char :=
  let whole := cs.takeWhile Char.isDigit
  match cs.dropWhile Char.isDigit with
  | [] => (whole, [])
  | c :: after =>
    if c = '.' ∧ ¬ (after.takeWhile Char.isDigit).isEmpty then
      (whole ++ '.' :: after.takeWhile Char.isDigit, after.dropWhile Char.isDigit)
    else (whole, c :: after)

/-- Splits the first lexeme off the text `c :: rest`. -/
def splitLexeme (c : Char) (rest : List Char) : List Char × List Char :=
  if c.isDigit then splitNumber (c :: rest) else ([c], rest)

theorem splitNumber_append (cs : List Char) :
    (splitNumber cs).1 ++ (splitNumber cs).2 = cs := by
  have whole := List.takeWhile_append_dropWhile (p := Char.isDigit) (l := cs)
  unfold splitNumber
  split
  · next h => rw [h] at whole; exact whole
  · next c after h =>
    rw [h] at whole
    dsimp only
    split
    · next point =>
      rw [List.append_assoc, List.cons_append, List.takeWhile_append_dropWhile, ← point.1]
      exact whole
    · exact whole

/-- A lexeme and the rest make up the text. -/
theorem splitLexeme_append (c : Char) (rest : List Char) :
    (splitLexeme c rest).1 ++ (splitLexeme c rest).2 = c :: rest := by
  unfold splitLexeme
  split
  · exact splitNumber_append (c :: rest)
  · rfl

/-- A lexeme has at least one character. -/
theorem splitLexeme_ne_nil (c : Char) (rest : List Char) : (splitLexeme c rest).1 ≠ [] := by
  unfold splitLexeme
  split
  · next digit =>
    unfold splitNumber
    split <;> try split
    all_goals simp [digit]
  · simp

/-- What follows a lexeme is shorter than the text. -/
theorem length_splitLexeme_lt (c : Char) (rest : List Char) :
    (splitLexeme c rest).2.length < (c :: rest).length := by
  have parts := congrArg List.length (splitLexeme_append c rest)
  have some := List.length_pos_iff.2 (splitLexeme_ne_nil c rest)
  rw [List.length_append] at parts
  omega

/-- The kind of a lexeme that begins with `c`, if `c` begins one. -/
def kindOf? (c : Char) (lexeme : List Char) : Option Kind :=
  if c.isDigit then some (.number (if '.' ∈ lexeme then .float else .integer))
  else Kind.ofSymbol? c

/-- The token of a lexeme that begins with `c` and stands after `position` characters. -/
def tokenOf (mode : Mode) (position : Nat) (c : Char) (lexeme : List Char) :
    Except Fault Token :=
  match kindOf? c lexeme with
  | some kind =>
    .ok { kind, text := String.ofList lexeme, position := some position }
  | none =>
    if mode.strict then .error (.unrecognizedCharacter c position)
    else
      .ok {
        kind := .invalid
        text := String.ofList lexeme
        message := some (unrecognizedText c position)
        position := some position }

/-- Whether the character is passed over. -/
def Mode.skips (mode : Mode) (c : Char) : Bool :=
  mode.skipLayout && Text.isLayout c

/-- The tokens of a text that stands after `position` characters. -/
def tokensFrom (mode : Mode) (position : Nat) : List Char → Except Fault (List Token)
  | [] => .ok []
  | c :: rest =>
    if mode.skips c then tokensFrom mode (position + 1) rest
    else
      match tokenOf mode position c (splitLexeme c rest).1 with
      | .error fault => .error fault
      | .ok token =>
        (tokensFrom mode (position + (splitLexeme c rest).1.length) (splitLexeme c rest).2).map
          (token :: ·)
  termination_by cs => cs.length
  decreasing_by
    · simp
    · exact length_splitLexeme_lt c rest

/-- The tokens of an expression. -/
def tokens (mode : Mode) (expression : String) : Except Fault (List Token) :=
  tokensFrom mode 0 expression.toList

end ReversePolish.Scan
