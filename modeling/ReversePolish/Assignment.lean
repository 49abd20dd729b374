import ReversePolish.Text.Blank
import ReversePolish.Text.Lines

/-!
# Files of assignments

A file of assignments gives values to names. A statement is a name, an equals sign and a value; the
word `export` may stand before it and a remark after it, and a name alone is declared without a
value. A value stands between quotes, where it may go on over several lines and hold escapes, or
runs to the end of its line. A statement that cannot be read is passed over up to the end of the
line. In a value, `$` with a name between braces stands for the value of another name.

The program leaves the reading of such a file to its surroundings; the form is described here for
texts in UTF-8. No theorem on commands depends on it, since they take the settings as found.

## Main definitions

* `Assignment.statement`: reads a statement.
* `Assignment.contents`: the bindings of a text, and the lines that cannot be read.
* `Assignment.expand`: a value with the values of other names put in.
* `Assignment.read`: what a file gives under an environment.
-/

namespace ReversePolish.Assignment

open Text

/-- A name with its value, or declared without one. -/
abbrev Binding := String × Option String

/-- Reads something off the front of a text. What is left of it is given in either case. -/
abbrev Read (α : Type) := Except (List Char) (α × List Char)

/-- Whether the character is blank but does not end a line. -/
def isSpace (c : Char) : Bool :=
  isBlank c && c ≠ '\n'

/-- What is left after the word `export` and the blanks behind it, if both stand in front. -/
def withoutExport (cs : List Char) : List Char :=
  let word := "export".toList
  let after := cs.drop word.length
  if word.isPrefixOf cs ∧ (after.head?.map isSpace).getD false then after.dropWhile isSpace else cs

/-- A name between single quotes, or one that runs to a blank, an equals sign or a number sign. A
remark has none. -/
def name (cs : List Char) : Read (Option (List Char)) :=
  match cs with
  | '#' :: _ => .ok (none, cs)
  | '\x27' :: rest =>
    match rest.takeWhile (· ≠ '\x27'), rest.dropWhile (· ≠ '\x27') with
    | [], _ => .error cs
    | _, [] => .error cs
    | name, _ :: after => .ok (some name, after)
  | _ =>
    let inside := fun c => !isBlank c && c ≠ '=' && c ≠ '#'
    match cs.takeWhile inside with
    | [] => .error cs
    | name => .ok (some name, cs.dropWhile inside)

/-- What stands before a closing quote, and what follows it. A quote after a backslash closes only
if no other one does. -/
def quoted? (quote : Char) : List Char → Option (List Char × List Char)
  | [] => none
  | '\\' :: c :: rest =>
    if c = quote then
      match quoted? quote rest with
      | some (value, after) => some ('\\' :: c :: value, after)
      | none => some (['\\'], rest)
    else (quoted? quote (c :: rest)).map fun (value, after) => ('\\' :: value, after)
  | c :: rest =>
    if c = quote then some ([], rest)
    else (quoted? quote rest).map fun (value, after) => (c :: value, after)

/-- The character that a letter after a backslash stands for between single quotes. -/
def plainEscape? (c : Char) : Option Char :=
  if c = '\\' ∨ c = '\x27' then some c else none

/-- The character that a letter after a backslash stands for between double quotes. -/
def richEscape? (c : Char) : Option Char :=
  match c with
  | 'a' => some '\x07'
  | 'b' => some '\x08'
  | 'f' => some '\x0C'
  | 'n' => some '\n'
  | 'r' => some '\r'
  | 't' => some '\t'
  | 'v' => some '\x0B'
  | '\\' | '\x27' | '\x22' => some c
  | _ => none

/-- A text with the escapes of a table undone. Other backslashes are kept. -/
def unescaped (table : Char → Option Char) : List Char → List Char
  | '\\' :: c :: rest =>
    match table c with
    | some d => d :: unescaped table rest
    | none => '\\' :: unescaped table (c :: rest)
  | c :: rest => c :: unescaped table rest
  | [] => []

/-- A value without quotes ends at a remark: a number sign after a blank. -/
def beforeRemark : List Char → List Char
  | [] => []
  | c :: rest =>
    if isBlank c ∧ (rest.dropWhile isBlank).head? = some '#' then [] else c :: beforeRemark rest

/-- The value after an equals sign. -/
def value (cs : List Char) : Read (List Char) :=
  match cs with
  | '\x27' :: rest =>
    match quoted? '\x27' rest with
    | some (value, after) => .ok (unescaped plainEscape? value, after)
    | none => .error cs
  | '\x22' :: rest =>
    match quoted? '\x22' rest with
    | some (value, after) => .ok (unescaped richEscape? value, after)
    | none => .error cs
  | _ =>
    .ok (trimBy isBlank (beforeRemark (cs.takeWhile (· ≠ '\n'))), cs.dropWhile (· ≠ '\n'))

/-- The value after a name, if an equals sign follows it. -/
def value? (cs : List Char) : Read (Option (List Char)) :=
  match cs.dropWhile isSpace with
  | '=' :: rest => (value (rest.dropWhile isSpace)).map fun (value, after) => (some value, after)
  | rest => .ok (none, rest)

/-- What is left after a remark, if one stands in front, and the end of the line. -/
def lineEnd (cs : List Char) : Read Unit :=
  let rest := cs.dropWhile isSpace
  let rest := if rest.head? = some '#' then rest.dropWhile (· ≠ '\n') else rest
  match rest with
  | [] => .ok ((), [])
  | '\n' :: after => .ok ((), after)
  | _ => .error rest

/-- A statement, or none where only a remark or nothing is left. -/
def statement (cs : List Char) : Read (Option Binding) :=
  match cs.dropWhile isBlank with
  | [] => .ok (none, [])
  | rest =>
    (name (withoutExport rest)).bind fun (name, rest) =>
      (value? rest).bind fun (value, rest) =>
        (lineEnd rest).map fun (_, rest) =>
          (name.map fun name => (String.ofList name, value.map String.ofList), rest)

/-- The number of line ends in a text. -/
def lineEnds (cs : List Char) : Nat :=
  cs.count '\n'

/-- What a text says line by line: its bindings, and the lines at which statements begin that cannot
be read. The blanks before a statement belong to it. -/
structure Contents where
  /-- The bindings in order. -/
  bindings : List Binding := []
  /-- The numbers of the lines. -/
  unreadable : List Nat := []
  deriving DecidableEq, Repr

/-- The contents of a text whose first line has the given number. There are at most `fuel`
statements. -/
def contentsFrom (fuel line : Nat) (cs : List Char) : Contents :=
  match fuel, cs with
  | 0, _ | _, [] => {}
  | fuel + 1, cs =>
    match statement cs with
    | .ok (binding, rest) =>
      let more := contentsFrom fuel (line + (lineEnds cs - lineEnds rest)) rest
      { more with bindings := binding.toList ++ more.bindings }
    | .error rest =>
      let after := (rest.dropWhile (· ≠ '\n')).drop 1
      let more := contentsFrom fuel (line + (lineEnds cs - lineEnds after)) after
      { more with unreadable := line :: more.unreadable }

/-- The contents of a text. A statement takes at least one character. -/
def contents (text : String) : Contents :=
  let cs := ['\n'].intercalate (linesOf text.toList)
  contentsFrom cs.length 1 cs

/-- A reference to a name, without what opens it: the name, the text that stands in for a value, and
what follows. -/
def reference? (cs : List Char) : Option (String × String × List Char) :=
  let inside := fun c => c ≠ '\x7d' && c ≠ ':'
  let name := String.ofList (cs.takeWhile inside)
  match cs.dropWhile inside with
  | '\x7d' :: after => some (name, "", after)
  | ':' :: '-' :: rest =>
    match rest.dropWhile (· ≠ '\x7d') with
    | _ :: after => some (name, String.ofList (rest.takeWhile (· ≠ '\x7d')), after)
    | [] => none
  | _ => none

/-- The names that a text refers to. -/
def referencesIn : List Char → List String
  | [] => []
  | c :: rest =>
    let here :=
      match c, rest with
      | '$', '\x7b' :: cs => (reference? cs).toList.map (·.1)
      | _, _ => []
    here ++ referencesIn rest

theorem length_dropWhile_le {α : Type} (p : α → Bool) (xs : List α) :
    (xs.dropWhile p).length ≤ xs.length := by
  induction xs with
  | nil => simp
  | cons x xs ih => by_cases h : p x <;> simp [h]; omega

/-- What follows a reference is shorter than the text. -/
theorem length_of_reference?_eq_some {cs after : List Char} {name standIn : String}
    (h : reference? cs = some (name, standIn, after)) : after.length < cs.length := by
  have hcs := length_dropWhile_le (fun c => c ≠ '\x7d' && c ≠ ':') cs
  unfold reference? at h
  dsimp only at h
  split at h
  · next hd => grind
  · next rest hd =>
    have hrest := length_dropWhile_le (· ≠ '\x7d') rest
    split at h <;> grind
  · simp at h

/-- A value with the values of other names put in. A name without a value gives nothing, and one
that is not known gives the text that stands in for it. -/
def expand (known : String → Option (Option String)) (cs : List Char) : List Char :=
  match cs with
  | '$' :: '\x7b' :: rest =>
    match h : reference? rest with
    | some (name, standIn, after) =>
      have := length_of_reference?_eq_some h
      let value := ((known name).map (·.getD "")).getD standIn
      value.toList ++ expand known after
    | none => '$' :: expand known ('\x7b' :: rest)
  | c :: rest => c :: expand known rest
  | [] => []
termination_by cs.length
decreasing_by
  · simp; omega
  · simp
  · simp

/-- Puts a binding in the place of one of the same name, or at the end. -/
def put (binding : Binding) : List Binding → List Binding
  | [] => [binding]
  | other :: rest =>
    if other.1 = binding.1 then binding :: rest else other :: put binding rest

/-- Bindings with the values of other names put in: those of earlier bindings first, then those of
the environment. -/
def resolve (environment : List (String × String)) (bindings : List Binding) : List Binding :=
  bindings.foldl (fun earlier (name, value) =>
    let known := fun name =>
      (earlier.lookup name).or ((environment.lookup name).map some)
    put (name, value.map fun text => String.ofList (expand known text.toList)) earlier) []

/-- What a file of assignments gives under an environment: each name once, in the order in which
they come up first, with its last value. -/
def read (environment : List (String × String)) (text : String) : Contents :=
  let found := contents text
  { found with bindings := resolve environment found.bindings }

example : contents "A = 1 # one\n'B'=\"2\n3\"\nexport C\n? ?\n" =
    { bindings := [("A", some "1"), ("B", some "2\n3"), ("C", none)], unreadable := [5] } := by
  decide +kernel

example :
    let bindings := [("A", some "$\x7bE\x7d$\x7bF:-f\x7d"), ("B", some "<$\x7bA\x7d>")]
    resolve [("E", "e")] bindings = [("A", some "ef"), ("B", some "<ef>")] := by
  decide +kernel

end ReversePolish.Assignment
