import NodeFleet.Address.Socket
import NodeFleet.Json.Value
import NodeFleet.Text.Utf8

/-!
Requests and responses of HTTP.

The names of header fields are kept in lower case, in which they are looked up; of several fields
with one name the first counts.
-/

namespace NodeFleet.Http

/-- The header fields of a message: names in lower case, and values. -/
abbrev Headers := List (String × String)

/-- A request. -/
structure Request where
  method : String
  /-- The path, still percent-encoded. -/
  path : String
  /-- The text after the question mark. -/
  query : String
  headers : Headers
  body : List UInt8
  /-- The other end of the connection, if it is known. -/
  peer : Option SocketAddress

/-- A response. -/
structure Response where
  status : Nat
  headers : Headers
  body : List UInt8
  deriving DecidableEq

/-- Whether a character may stand in a header field that is read as text. -/
def isVisible (c : Char) : Bool := (' ' ≤ c && c ≤ '~') || c == '\t'

namespace Request

/-- The value of a header field. -/
def header? (r : Request) (name : String) : Option String := r.headers.lookup name

/-- The value of a header field of visible characters. -/
def visibleHeader? (r : Request) (name : String) : Option String :=
  (r.header? name).filter fun value => value.toList.all isVisible

/-- The path and the query of the target of a request, which may start with a scheme and a host. -/
def splitTarget (target : String) : String × String :=
  let whole := target.toList.takeWhile (· ≠ '#')
  let afterScheme (cs : List Char) : List Char :=
    match cs.dropWhile fun c => c ≠ ':' && c ≠ '/' && c ≠ '?' with
    | ':' :: '/' :: '/' :: rest => rest.dropWhile fun c => c ≠ '/' && c ≠ '?'
    | _ => cs
  let origin := afterScheme whole
  let path := origin.takeWhile (· ≠ '?')
  (if path.isEmpty then "/" else String.ofList path,
    String.ofList ((origin.dropWhile (· ≠ '?')).drop 1))

end Request

namespace Response

/-- A response without a body. -/
def empty (status : Nat) : Response := ⟨status, [], []⟩

/-- A response with a JSON body. -/
def json (status : Nat) (value : Json.Value) : Response :=
  ⟨status, [("content-type", "application/json")], Text.bytesOf value.render⟩

/-- The value of a header field. -/
def header? (r : Response) (name : String) : Option String := r.headers.lookup name

/-- Adds a header field unless there is one of its name. -/
def withHeader (name value : String) (r : Response) : Response :=
  if (r.header? name).isSome then r else { r with headers := r.headers ++ [(name, value)] }

/-- Adds the length of the body. -/
def withLength (r : Response) : Response :=
  r.withHeader "content-length" (Text.showNat r.body.length)

/-- The response without its body, as it is sent to a request for the head only. -/
def withoutBody (r : Response) : Response := { r with body := [] }

end Response

end NodeFleet.Http
