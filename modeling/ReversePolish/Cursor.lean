import ReversePolish.Scan

/-!
# Cursors

A place in an expression from which scanning can go on. A cursor is never changed: each move gives
another cursor over the same expression, and no move but a reset goes back.

## Main definitions

* `Cursor`, with `Cursor.at?` for a chosen place.
* `Cursor.advance?`, `Cursor.reset`: moves by a number of characters and to the start.
* `Cursor.peek?`, `Cursor.isExhausted`: what is at the place.
* `Cursor.consume`, `Cursor.hasNext`, `Cursor.tokens`: scanning from the place on.
-/

namespace ReversePolish

/-- A place in an expression, perhaps beyond its end. -/
structure Cursor where
  /-- The expression. -/
  source : String
  /-- How many of its characters stand before the place. -/
  position : Nat := 0
  deriving DecidableEq, Repr

/-- Why a cursor cannot do what is asked. -/
inductive CursorFault where
  /-- There is no character at the place. -/
  | atEnd
  /-- The place lies beyond the greatest index. -/
  | outOfReach
  /-- There is no token from the place on. -/
  | noToken (position : Nat)
  /-- The move would go back. -/
  | backwards (distance : Int)
  /-- The next character is refused. -/
  | refused (fault : Fault)
  deriving DecidableEq, Repr

namespace CursorFault

/-- The cause in words. -/
def message : CursorFault → String
  | .atEnd => "string index out of range"
  | .outOfReach => "cannot fit 'int' into an index-sized integer"
  | .noToken position => "Brak tokenów od pozycji " ++ toString position
  | .backwards distance => "Kursor nie może się cofać (n=" ++ toString distance ++ ")"
  | .refused fault => fault.message

end CursorFault

namespace Cursor

/-- The place after `position` characters; there is none before the start. -/
def at? (source : String) (position : Int) : Option Cursor :=
  if position < 0 then none else some { source, position := position.toNat }

/-- The characters from the place on. -/
def remaining (cursor : Cursor) : List Char :=
  cursor.source.toList.drop cursor.position

/-- Whether the place is at or beyond the end. -/
def isExhausted (cursor : Cursor) : Bool :=
  cursor.source.length ≤ cursor.position

/-- The greatest index of a character. No expression comes near it. -/
def greatestIndex : Nat := 0x7FFFFFFFFFFFFFFF

/-- The character at the place. -/
def peek? (cursor : Cursor) : Except CursorFault Char :=
  match cursor.remaining with
  | c :: _ => .ok c
  | [] => if cursor.position ≤ greatestIndex then .error .atEnd else .error .outOfReach

/-- The place `distance` characters further on, or the end if that is nearer. From beyond the end
this leads to the end. -/
def advance? (cursor : Cursor) (distance : Int) : Except CursorFault Cursor :=
  if distance < 0 then .error (.backwards distance)
  else
    .ok { cursor with position := min (cursor.position + distance.toNat) cursor.source.length }

/-- The start of the expression. -/
def reset (cursor : Cursor) : Cursor :=
  { cursor with position := 0 }

/-- The place with the characters from it on, once the layout at the place is passed over. -/
def skipFrom (mode : Scan.Mode) (position : Nat) : List Char → Nat × List Char
  | [] => (position, [])
  | c :: rest =>
    if mode.skips c then skipFrom mode (position + 1) rest else (position, c :: rest)

/-- The place of the next lexeme, with the characters from it on. -/
def skipped (mode : Scan.Mode) (cursor : Cursor) : Nat × List Char :=
  skipFrom mode cursor.position cursor.remaining

/-- Whether there is a token from the place on. -/
def hasNext (mode : Scan.Mode) (cursor : Cursor) : Bool :=
  !(skipped mode cursor).2.isEmpty

/-- The next token, and the place after it. -/
def consume (mode : Scan.Mode) (cursor : Cursor) : Except CursorFault (Token × Cursor) :=
  match skipped mode cursor with
  | (position, []) => .error (.noToken position)
  | (position, c :: rest) =>
    let lexeme := (Scan.splitLexeme c rest).1
    match Scan.tokenOf mode position c lexeme with
    | .ok token => .ok (token, { cursor with position := position + lexeme.length })
    | .error fault => .error (.refused fault)

/-- The tokens from the place on. -/
def tokens (mode : Scan.Mode) (cursor : Cursor) : Except Fault (List Token) :=
  Scan.tokensFrom mode cursor.position cursor.remaining

/-- From its start, a cursor gives the tokens of the expression. -/
theorem tokens_reset (mode : Scan.Mode) (cursor : Cursor) :
    cursor.reset.tokens mode = Scan.tokens mode cursor.source := by
  simp [tokens, reset, remaining, Scan.tokens]

end Cursor

end ReversePolish
