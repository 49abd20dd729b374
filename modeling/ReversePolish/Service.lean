import ReversePolish.Address
import ReversePolish.Batch
import ReversePolish.Journal
import ReversePolish.Settings
import ReversePolish.Text.UpperCase

/-!
# Service

The program as a service that answers requests. A request names a method and an address and may
carry a body; an answer has a status and mostly a body. Expressions are checked first for their
form, then for their length. A faulty expression is an answer like any other, with the class and the
wording of the fault. Only a faulty address has no answer.

What the program decides itself is the answer to an expression or to a list of expressions that is
posted to one of its routes, and the answer of `health`. Routing, the checks of the form of a body
and the wording of their refusals are not the program's own: `Service.respondAt`,
`Service.requiredField` and `Service.badBody` describe them for requests that arrive whole, with a
body that is a datum or with none, from a client that follows redirections. Other requests are not
modelled.

## Main definitions

* `Service.Request`, `Service.Response`, `Service.Route`.
* `Service.expressionOf`, `Service.expressionsOf`: the checks of a body.
* `Service.tooLong`: the limit on the length.
* `Service.start`: the settings that the service runs under.
* `Service.respond`: the answer to a request.
-/

namespace ReversePolish

/-- A list of data, each made from an item. -/
def Datum.ofList {α : Type} (f : α → Datum) (items : List α) : Datum :=
  .list (items.map f)

/-- A datum that is null without a value. -/
def Datum.ofOption {α : Type} (f : α → Datum) : Option α → Datum
  | some a => f a
  | none => .null

/-- A token as a record. -/
def Token.toDatum (t : Token) : Datum :=
  .record [
    ("kind", .text t.kind.name),
    ("text", .text t.text),
    ("message", Datum.ofOption .text t.message),
    ("position", Datum.ofOption .int t.position)]

/-- A diagnosis as a record. -/
def Diagnosis.toDatum (diagnosis : Diagnosis) : Datum :=
  .record [("code", .text diagnosis.code.name), ("message", .text diagnosis.message)]

/-- A place as a datum: a name or an index. -/
def Place.toDatum : Place → Datum
  | .field name => .text name
  | .item index => .int index

/-- A complaint as a record, without the datum that it quotes. -/
def Complaint.toDatum (complaint : Complaint) : Datum :=
  .record ([
    ("type", .text complaint.violation.name),
    ("loc", Datum.ofList Place.toDatum complaint.place)] ++
    match complaint.violation.message? with
    | some message => [("msg", .text message)]
    | none => [])

namespace Datum

/-- What stands at a place inside a datum, or the last datum on the way to it, where the way ends
earlier. -/
def nearest : List Place → Datum → Datum
  | [], datum => datum
  | .field name :: place, datum =>
    match datum.field? name with
    | some inner => nearest place inner
    | none => datum
  | .item index :: place, .list items =>
    match items[index]? with
    | some inner => nearest place inner
    | none => .list items
  | .item _ :: _, datum => datum

mutual

/-- Whether the datum can be written in an answer: its format has no infinite numbers and none that
is not a number. -/
def isWritable : Datum → Bool
  | .real x => (Magnitude.ofFloat x).isFinite
  | .list items => areWritable items
  | .record fields => areFieldsWritable fields
  | .null | .bool _ | .int _ | .text _ => true

/-- Whether all items of a list can be written. -/
def areWritable : List Datum → Bool
  | [] => true
  | item :: items => item.isWritable && areWritable items

/-- Whether all fields of a record can be written. -/
def areFieldsWritable : List (String × Datum) → Bool
  | [] => true
  | (_, value) :: fields => value.isWritable && areFieldsWritable fields

end

end Datum

namespace Service

/-- A request. -/
structure Request where
  /-- The method, in any case. -/
  method : String
  /-- The address. -/
  address : String
  /-- The body, if there is one. -/
  body : Option Datum := none

/-- An answer. -/
structure Response where
  /-- The status. -/
  status : Nat
  /-- The body, if it is a datum. -/
  body : Option Datum
  /-- The path to ask for instead, in a redirection. -/
  location : Option (List Char) := none

/-- What can be asked for. -/
inductive Route where
  | tokenize
  | convert
  | evaluate
  | evaluateBatch
  | health
  deriving DecidableEq, Repr

namespace Route

/-- The path of a route. -/
def path : Route → String
  | .tokenize => "/tokenize"
  | .convert => "/convert"
  | .evaluate => "/evaluate"
  | .evaluateBatch => "/evaluate/batch"
  | .health => "/health"

/-- The method of a route. -/
def method : Route → String
  | .health => "GET"
  | _ => "POST"

/-- All routes. -/
def all : List Route :=
  [.tokenize, .convert, .evaluate, .evaluateBatch, .health]

/-- Whether a path is that of the name, where a line feed at its end does not count. -/
def isNamed (path : List Char) (name : String) : Bool :=
  path = name.toList || path = name.toList ++ ['\n']

/-- The route of a path. -/
def ofPath? (path : List Char) : Option Route :=
  all.find? fun route => isNamed path route.path

end Route

/-- An answer with a record as its body. -/
def record (status : Nat) (fields : List (String × Datum)) : Response where
  status
  body := some (.record fields)

/-- An answer that only says what is wrong. -/
def refusal (status : Nat) (detail : String) : Response :=
  record status [("detail", .text detail)]

/-- The answer to a path without a route. -/
def notFound : Response := refusal 404 "Not Found"

/-- The answer to a method that the route does not have. -/
def methodNotAllowed : Response := refusal 405 "Method Not Allowed"

/-- The answer where the service fails. It is no datum. -/
def failure : Response where
  status := 500
  body := none

/-- The datum that a complaint about a body quotes: what stands at its place, or the record in which
a field is missing. The place of a complaint begins with the word `body`. -/
def quotedDatum (body : Option Datum) (complaint : Complaint) : Datum :=
  Datum.nearest complaint.place.tail (body.getD .null)

/-- The answer to a body of the wrong form. It quotes what is wrong, and fails if that cannot be
written. -/
def badBody (body : Option Datum) (complaints : List Complaint) : Response :=
  if complaints.all fun complaint => (quotedDatum body complaint).isWritable then
    record 422 [("detail", Datum.ofList Complaint.toDatum complaints)]
  else failure

/-- The answer to a faulty expression. -/
def badExpression (fault : Fault) : Response :=
  record 422 [("detail", .text fault.message), ("code", .text fault.code.name)]

/-- The answer to an expression beyond the greatest length. -/
def badLength (settings : Settings) : Response :=
  refusal 422 ("Wyrażenie dłuższe niż " ++ toString settings.maxExpressionLength ++ " znaków")

/-- A good answer. -/
def good (fields : List (String × Datum)) : Response :=
  record 200 fields

/-- The named field of a body. A body has to be a record, and null is as good as none. -/
def requiredField (name : String) : Option Datum → Checked Datum
  | some (.record fields) =>
    match fields.lookup name with
    | some datum => .ok datum
    | none => Checked.refuse [.field "body", .field name] .missing
  | none | some .null => Checked.refuse [.field "body"] .missing
  | some _ => Checked.refuse [.field "body"] .notRecord

/-- The expression of a body: a text with at least one character. -/
def expressionOf (body : Option Datum) : Checked String :=
  (requiredField "expression" body).bind fun datum =>
    Checked.located [.field "body", .field "expression"]
      (match datum with
      | .text s => if s = "" then .error .emptyText else .ok s
      | _ => .error .notText)

/-- The texts of a list, with the complaints about the items that are none. -/
def textsFrom (place : List Place) (index : Nat) : List Datum → Checked (List String)
  | [] => .ok []
  | datum :: rest =>
    ((Checked.located (place ++ [.item index]) datum.text?).both
      (textsFrom place (index + 1) rest)).map fun (s, texts) => s :: texts

/-- The expressions of a body: a list with at least one text. A text may be empty here. -/
def expressionsOf (body : Option Datum) : Checked (List String) :=
  let place : List Place := [.field "body", .field "expressions"]
  (requiredField "expressions" body).bind fun datum =>
    match datum with
    | .list [] => Checked.refuse place .emptyList
    | .list items => textsFrom place 0 items
    | _ => Checked.refuse place .notList

/-- Whether the expression has more characters than the settings allow. -/
def tooLong (settings : Settings) (expression : String) : Bool :=
  settings.maxExpressionLength < expression.length

/-- A value as a number, if it is finite. -/
def finiteDatum (x : Float) : Datum :=
  if (Magnitude.ofFloat x).isFinite then .real x else .null

/-- The texts of tokens with spaces between them. -/
def spaced (ts : List Token) : String :=
  render " " (.ok ts)

/-- The answer on the tokens of an expression. -/
def tokenize (settings : Settings) (expression : String) : Response :=
  match Scan.tokens settings.mode expression with
  | .ok ts =>
    good [("expression", .text expression), ("tokens", Datum.ofList Token.toDatum ts)]
  | .error fault => badExpression fault

/-- The answer on the reverse Polish notation of an expression. A fault is part of it. -/
def convert (settings : Settings) (expression : String) : Response :=
  let polish := toPolish settings.mode expression
  good [
    ("expression", .text expression),
    ("postfix", Datum.ofList Token.toDatum (polish.toOption.getD [])),
    ("rendered", .text (render " " polish)),
    ("valid", .bool polish.isOk),
    ("error",
      match polish with
      | .ok _ => .null
      | .error fault => fault.diagnosis.toDatum)]

/-- The answer on the value of an expression. -/
def evaluate (settings : Settings) (expression : String) : Response :=
  match calculate settings.mode expression with
  | .ok result =>
    good [
      ("expression", .text expression),
      ("postfix", .text (spaced result.polish)),
      ("value", finiteDatum result.value),
      ("display", .text (Number.plain result.value)),
      ("steps", Datum.ofList (fun step => .text step.text) result.steps)]
  | .error fault => badExpression fault

/-- An item of a batch as a record. -/
def itemDatum (item : Batch.Item) : Datum :=
  .record [
    ("expression", .text item.expression),
    ("postfix", .text item.rendered),
    ("value", Datum.ofOption finiteDatum item.value?),
    ("display", Datum.ofOption (fun x => .text (Number.plain x)) item.value?),
    ("error", Datum.ofOption (fun fault => fault.diagnosis.toDatum) item.fault?)]

/-- The answer on a batch of expressions. One that is too long refuses them all. -/
def evaluateBatch (settings : Settings) (expressions : List String) : Response :=
  if expressions.any (tooLong settings) then badLength settings
  else
    let items := Batch.calculate settings.mode expressions
    good [
      ("ok", .int (Batch.succeeded items)),
      ("ko", .int (Batch.failed items)),
      ("total", .int items.length),
      ("items", Datum.ofList itemDatum items)]

/-- The answer that the service is there. -/
def health (settings : Settings) : Response :=
  good [("status", .text "ok"), ("version", .text settings.appVersion)]

/-- The answer on a single expression, once form and length of it are right. -/
def onExpression (settings : Settings) (body : Option Datum)
    (answer : Settings → String → Response) : Response :=
  match expressionOf body with
  | .error complaints => badBody body complaints
  | .ok expression =>
    if tooLong settings expression then badLength settings else answer settings expression

/-- Why the service does not start. -/
inductive StartFault where
  /-- The settings are faulty. -/
  | settings (complaints : List Complaint)
  /-- There is no severity of the given name. -/
  | unknownLevel (name : String)
  /-- It has an empty title. -/
  | untitled
  /-- Its version is empty. -/
  | unversioned
  deriving DecidableEq, Repr

/-- The cause in words, where it has its own. -/
def StartFault.message? : StartFault → Option String
  | .settings _ => none
  | .unknownLevel name => some (Journal.unknownThreshold name)
  | .untitled => some "A title must be provided for OpenAPI, e.g.: 'My API'"
  | .unversioned => some "A version must be provided for OpenAPI, e.g.: '2.1.0'"

/-- The settings that a record gives, if the service can run under them. -/
def start (datum : Datum) : Except StartFault Settings :=
  match Settings.ofDatum datum with
  | .error complaints => .error (.settings complaints)
  | .ok settings =>
    if (Journal.threshold? settings.logLevel).isNone then .error (.unknownLevel settings.logLevel)
    else if settings.appTitle = "" then .error .untitled
    else if settings.appVersion = "" then .error .unversioned
    else .ok settings

/-- The answer of a route to a request with the given body. -/
def answer (settings : Settings) (body : Option Datum) : Route → Response
  | .tokenize => onExpression settings body tokenize
  | .convert => onExpression settings body convert
  | .evaluate => onExpression settings body evaluate
  | .evaluateBatch =>
    match expressionsOf body with
    | .error complaints => badBody body complaints
    | .ok expressions => evaluateBatch settings expressions
  | .health => health settings

/-- The paths of the pages on which the service describes itself. -/
def pages : List String :=
  ["/openapi.json", "/docs", "/docs/oauth2-redirect", "/redoc"]

/-- Whether a path is that of one of the pages. -/
def isPage (path : List Char) : Bool :=
  pages.any (Route.isNamed path)

/-- The answer that asks for another path instead. -/
def redirection (path : List Char) : Response where
  status := 307
  body := none
  location := some path

/-- A path without the slashes at its end. -/
def withoutSlashes (path : List Char) : List Char :=
  (path.reverse.dropWhile (· = '/')).reverse

/-- The answer to a request for a path, by a method in upper case. The pages are no data, and so
have no body here. Slashes at the end of a path are not part of any name, but the answer tells of
the name without them. -/
def respondAt (settings : Settings) (method : String) (path : List Char) (body : Option Datum) :
    Response :=
  match Route.ofPath? path with
  | some route => if method = route.method then answer settings body route else methodNotAllowed
  | none =>
    let trimmed := withoutSlashes path
    if isPage path then
      if method = "GET" ∨ method = "HEAD" then { status := 200, body := none }
      else methodNotAllowed
    else if (Route.ofPath? trimmed).isSome || isPage trimmed then redirection trimmed
    else notFound

/-- The answer to a request, after a redirection the one to the path told. A request that only asks
for the head of an answer gets no body. -/
def respond (settings : Settings) (request : Request) : Except Address.Fault Response :=
  (Address.pathOf request.address).map fun path =>
    let method := Text.upperCase request.method
    let first := respondAt settings method path request.body
    let response :=
      match first.location with
      | some other => respondAt settings method other request.body
      | none => first
    if method = "HEAD" then { response with body := none } else response

end Service

end ReversePolish
