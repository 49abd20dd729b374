import ReversePolish.Number.Numeral
import ReversePolish.Text.Percent
import ReversePolish.Text.Quoted

/-!
# Addresses

A request is addressed by a reference: perhaps a scheme, perhaps two slashes and an authority, a
path, and perhaps a query and a fragment, in this order. Only the path matters to what is asked for.
A path is taken from the root, whether a slash stands in front of it or not, its segments of one or
two points are resolved, and escapes in it are undone twice over.

The program reads no addresses itself. How a client and the service come from a reference to a path
is described here for references of the form above, of which the host is taken to be well formed.
What is proved of answers only rests on the addresses of the routes, each of which is its own path.

## Main definitions

* `Address`: the parts of a reference.
* `Address.Fault`: what is wrong with a reference.
* `Address.ofReference`: the parts of a reference, if it is well formed.
* `Address.resolveDots`: a path without segments of points.
* `Address.pathOf`: the path that a reference leads to.
-/

namespace ReversePolish

/-- The parts of a reference, but for query and fragment. -/
structure Address where
  /-- The scheme in lower case, or nothing. -/
  scheme : List Char
  /-- The part of the authority before its last at sign, or nothing. -/
  user : List Char
  /-- The host, or nothing. -/
  host : List Char
  /-- What follows the host and a colon, or nothing. -/
  gate : List Char
  /-- The path as it is written. -/
  path : List Char
  deriving DecidableEq, Repr

namespace Address

/-- What is wrong with a reference. -/
inductive Fault where
  /-- It has too many characters. -/
  | tooLong
  /-- It has a control character of ASCII, at the given index. -/
  | control (c : Char) (index : Nat)
  /-- What follows host and colon is no integer. -/
  | badGate (gate : String)
  /-- Without scheme and authority its path begins with two slashes. -/
  | doubleSlash
  /-- Without scheme and authority its path begins with a colon. -/
  | leadingColon
  /-- The service is not reached by its scheme. -/
  | foreignScheme (scheme : String)
  deriving DecidableEq, Repr

/-- The cause in words. -/
def Fault.message : Fault → String
  | .tooLong => "URL too long"
  | .control c index =>
    "Invalid non-printable ASCII character in URL, " ++ Text.quoted (String.singleton c) ++
      " at position " ++ toString index ++ "."
  | .badGate gate => "Invalid port: " ++ Text.quoted gate
  | .doubleSlash => "Relative URLs cannot have a path starting with '//'"
  | .leadingColon => "Relative URLs cannot have a path starting with ':'"
  | .foreignScheme scheme => Text.quoted scheme

/-- The greatest number of characters of a reference. -/
def lengthLimit : Nat := 65536

/-- The schemes by which the service is reached. -/
def schemes : List (List Char) := ["http".toList, "https".toList]

/-- Whether the character can be part of a scheme, if not its first one. -/
def isSchemeChar (c : Char) : Bool :=
  c.isAlphanum || c = '+' || c = '.' || c = '-'

/-- Splits a scheme with its colon off the front. A colon alone is as good as none. -/
def splitScheme (cs : List Char) : List Char × List Char :=
  match cs.dropWhile isSchemeChar with
  | ':' :: rest =>
    match cs.takeWhile isSchemeChar with
    | [] => ([], rest)
    | c :: name => if c.isAlpha then ((c :: name).map Char.toLower, rest) else ([], cs)
  | _ => ([], cs)

/-- Splits two slashes and an authority off the front. -/
def splitAuthority : List Char → List Char × List Char
  | '/' :: '/' :: rest =>
    let inside := fun c => c ≠ '/' && c ≠ '?' && c ≠ '#'
    (rest.takeWhile inside, rest.dropWhile inside)
  | cs => ([], cs)

/-- Splits what stands before the last at sign off the front. -/
def splitUser (cs : List Char) : List Char × List Char :=
  if '@' ∈ cs then
    (((cs.reverse.dropWhile (· ≠ '@')).drop 1).reverse,
      (cs.reverse.takeWhile (· ≠ '@')).reverse)
  else ([], cs)

/-- Splits a host off the front. Colons belong to it only between square brackets. -/
def splitHost (cs : List Char) : List Char × List Char :=
  if cs.head? = some '[' ∧ ']' ∈ cs then
    ((cs.reverse.dropWhile (· ≠ ']')).reverse, (cs.reverse.takeWhile (· ≠ ']')).reverse)
  else (cs.takeWhile (· ≠ ':'), cs.dropWhile (· ≠ ':'))

/-- The parts of a reference. -/
def split (cs : List Char) : Address :=
  let (scheme, rest) := splitScheme cs
  let (authority, rest) := splitAuthority rest
  let (user, rest') := splitUser authority
  let (host, gate) := splitHost rest'
  { scheme, user, host,
    gate := if gate.head? = some ':' then gate.drop 1 else gate,
    path := rest.takeWhile fun c => c ≠ '?' && c ≠ '#' }

/-- Whether there is an authority. -/
def hasAuthority (address : Address) : Bool :=
  !(address.user.isEmpty && address.host.isEmpty && address.gate.isEmpty)

/-- Whether scheme and host are given, so that nothing is left to be supplied. -/
def isComplete (address : Address) : Bool :=
  !address.scheme.isEmpty && !address.host.isEmpty

/-- A control character of ASCII, with its index. -/
def control? (index : Nat) : List Char → Option (Char × Nat)
  | [] => none
  | c :: rest =>
    if c.toNat < 0x20 ∨ c.toNat = 0x7F then some (c, index) else control? (index + 1) rest

/-- The fault of a reference with the given parts. -/
def fault? (address : Address) : Option Fault :=
  if !address.gate.isEmpty ∧ !Numeral.isInteger address.gate then
    some (.badGate (String.ofList address.gate))
  else if address.scheme.isEmpty ∧ !address.hasAuthority then
    match address.path with
    | '/' :: '/' :: _ => some .doubleSlash
    | ':' :: _ => some .leadingColon
    | _ => none
  else if address.isComplete ∧ address.scheme ∉ schemes then
    some (.foreignScheme (String.ofList address.scheme))
  else none

/-- The parts of a reference, if it is well formed. -/
def ofReference (reference : String) : Except Fault Address :=
  if lengthLimit < reference.length then .error .tooLong
  else
    match control? 0 reference.toList with
    | some (c, index) => .error (.control c index)
    | none =>
      let address := split reference.toList
      match address.fault? with
      | some fault => .error fault
      | none => .ok address

/-- The segments of a path: what stands between its slashes. -/
def segmentsOf : List Char → List (List Char)
  | [] => [[]]
  | c :: rest =>
    if c = '/' then [] :: segmentsOf rest
    else
      match segmentsOf rest with
      | [] => [[c]]
      | segment :: segments => (c :: segment) :: segments

/-- The segments after those in `kept`, the last of which comes first. One point is left out, and
two points take the segment before them away, unless only the root is left. -/
def resolveFrom (kept : List (List Char)) : List (List Char) → List (List Char)
  | [] => kept.reverse
  | segment :: rest =>
    if segment = ['.'] then resolveFrom kept rest
    else if segment = ['.', '.'] then
      resolveFrom (if kept = [[]] then kept else kept.drop 1) rest
    else resolveFrom (segment :: kept) rest

/-- A path without segments of points. -/
def resolveDots (path : List Char) : List Char :=
  ['/'].intercalate (resolveFrom [] (segmentsOf path))

/-- The path from the root of the service. That of a complete reference already is one; any other
gets a single slash in front, after its points are resolved if a scheme or an authority stands
before it. -/
def rooted (address : Address) : List Char :=
  if address.isComplete then address.path
  else
    let path :=
      if address.scheme.isEmpty ∧ !address.hasAuthority then address.path
      else resolveDots address.path
    '/' :: path.dropWhile (· = '/')

/-- The path that a well-formed reference leads to. -/
def resolved (address : Address) : List Char :=
  match resolveDots address.rooted with
  | [] => ['/']
  | path => Text.unescape (Text.unescape path)

/-- The path that a reference leads to. -/
def pathOf (reference : String) : Except Fault (List Char) :=
  (ofReference reference).map resolved

example : (pathOf "//host/a/../health?x#y").toOption = some "/health".toList := by decide +kernel

example : (pathOf "./%68ealth%2F").toOption = some "/health/".toList := by decide +kernel

example : (pathOf "////health").toOption = none := by decide +kernel

end Address

end ReversePolish
