import NodeFleet.Error
import NodeFleet.Http.Form
import NodeFleet.Http.MediaType
import NodeFleet.Http.Message
import NodeFleet.Json.Decode
import NodeFleet.Node.Request
import NodeFleet.Text.Percent

/-!
What a call takes from its request: the parameters in the path, the criteria in the query, the JSON
body, and the credentials.

Parameters and queries that cannot be read make a bad request, bodies break a rule of the input.
-/

namespace NodeFleet.Api

open Http (Request)

/-- The parameters of a path: their names, and their texts as they stand in the path. -/
abbrev Parameters := List (String × List Char)

/-- A request and the parameters in its path. -/
structure Input where
  parameters : Parameters
  request : Request

/-- The error of a path. -/
def pathError (message : String) : Error := .badRequest ("Invalid URL: " ++ message)

/-- The text of a parameter. -/
def parameterText (parameter : String × List Char) : Except Error String :=
  match Text.decode? (Text.percentDecode (Text.bytesOf (String.ofList parameter.2))) with
  | some text => .ok text
  | none => .error (pathError ("Invalid UTF-8 in `" ++ parameter.1 ++ "`"))

/-- The texts of all parameters. -/
def Input.texts (input : Input) : Except Error (List String) := input.parameters.mapM parameterText

/-- A signed number of 32 bits. -/
def number? (text : String) : Option Int := (Text.readInt Text.maxInt32 text.toList).toOption

/-- The only parameter, a text. -/
def Input.text (input : Input) : Except Error String := do
  match ← input.texts with
  | [text] => .ok text
  | _ => .error (pathError "Wrong number of path arguments")

/-- The only parameter, a number. -/
def Input.number (input : Input) : Except Error Int := do
  let text ← input.text
  match number? text with
  | some n => .ok n
  | none => .error (pathError ("Cannot parse `" ++ text ++ "` to a `i32`"))

/-- Numbers from texts; `index` is the position of the first. -/
def numbersFrom (index : Nat) : List String → Except Error (List Int)
  | [] => .ok []
  | text :: rest =>
    match number? text with
    | some n => (numbersFrom (index + 1) rest).map (n :: ·)
    | none =>
      .error (pathError ("Cannot parse value at index " ++ Text.showNat index ++ " with value `"
        ++ text ++ "` to a `i32`"))

/-- Both parameters, numbers. -/
def Input.numbers (input : Input) : Except Error (Int × Int) := do
  match ← numbersFrom 0 (← input.texts) with
  | [m, n] => .ok (m, n)
  | _ => .error (pathError "Wrong number of path arguments")

/-- The greatest number of bytes in a body. -/
def bodyLimit : Nat := 2097152

/-- The message of a body that does not fit. A text that is no JSON is told from one that is JSON of
another shape. -/
def bodyMessage (e : Json.Failure) : String :=
  let summary := match e.cause with
    | .fault _ => "Failed to parse the request body as JSON: "
    | _ => "Failed to deserialize the JSON body into the target type: "
  summary ++ e.placedMessage

/-- Reads the body. -/
def Input.body {α : Type} (input : Input) (d : Json.Decoder α) : Except Error α :=
  if !((input.request.visibleHeader? "content-type").any Http.isJsonType) then
    .error (.validation "Expected request with `Content-Type: application/json`")
  else if bodyLimit < input.request.body.length then
    .error (.validation "Failed to buffer the request body: length limit exceeded")
  else
    (d.ofScan (Json.Doc.ofBytes input.request.body)).mapError fun e => .validation (bodyMessage e)

/-- Adds a criterion of a query to a filter. A criterion may be given once; unknown ones are left
out. -/
def addCriterion (filter : NodeFilter) (criterion : String × String) : Except String NodeFilter :=
  let (name, value) := criterion
  let once (given : Bool) (result : Except String NodeFilter) : Except String NodeFilter :=
    if given then .error (Json.Cause.duplicateField name).message
    else result.mapError fun e => name ++ ": " ++ e
  match name with
  | "status" =>
    once filter.health.isSome
      (((Json.variant Health.naming.known value).mapError Json.Failure.message).map
        fun health => { filter with health := some health })
  | "region" => once filter.region.isSome (.ok { filter with region := some value })
  | "keyword" => once filter.keyword.isSome (.ok { filter with keyword := some value })
  | "group_id" =>
    once filter.groupId.isSome
      (((Text.readInt Text.maxInt32 value.toList).mapError Text.IntegerFault.message).map
        fun id => { filter with groupId := some id })
  | _ => .ok filter

/-- The filter that the query asks for. -/
def Input.filter (input : Input) : Except Error NodeFilter :=
  ((Http.formPairs input.request.query).foldlM addCriterion ⟨none, none, none, none⟩).mapError
    fun e => .badRequest ("Failed to deserialize query string: " ++ e)

/-- The token that a request bears. -/
def bearer (r : Request) : Except Error String :=
  match r.visibleHeader? "authorization" with
  | none => .error (.unauthorized "Отсутствует заголовок Authorization")
  | some value =>
    let token := (Text.afterStart? "Bearer ".toList value.toList).map Text.trimChars
    match token.filter fun cs => !cs.isEmpty with
    | some cs => .ok (String.ofList cs)
    | none => .error (.unauthorized "Ожидается Bearer токен")

/-- The address that stands for the client of a request: the first of those that proxies name, else
the other end of the connection. -/
def clientAddress (r : Request) : String :=
  let named := (r.visibleHeader? "x-forwarded-for").map fun value =>
    Text.trim (String.ofList (value.toList.takeWhile (· ≠ ',')))
  match named.filter (fun address => !address.isEmpty), r.peer with
  | some address, _ => address
  | none, some peer => peer.ip.text
  | none, none => "unknown"

end NodeFleet.Api
