import NodeFleet.Digest.Hmac
import NodeFleet.Json.Decode
import NodeFleet.Text.Base64
import NodeFleet.Text.Split

/-!
Tokens of the administrator.

A token consists of a header, claims, and a signature under the secret of the panel, each in
Base64, with points between them. `AdminToken.issue` writes a token that is valid for a day;
`AdminToken.check` tells whose token it is, or what is wrong with it. A token is accepted for a
minute beyond its expiry.
-/

namespace NodeFleet.Api

/-- Why a token is refused. -/
inductive TokenFault where
  /-- It does not consist of three parts. -/
  | parts
  | base64
  | json
  /-- It is signed in another way than this panel signs. -/
  | algorithm
  | signature
  | expired
  /-- It is meant for a named audience. -/
  | audience
  deriving DecidableEq, Repr

/-- The wording of each fault. -/
def TokenFault.message : TokenFault → String
  | .parts => "InvalidToken"
  | .base64 => "Base64 error"
  | .json => "JSON error"
  | .algorithm => "InvalidAlgorithm"
  | .signature => "InvalidSignature"
  | .expired => "ExpiredSignature"
  | .audience => "InvalidAudience"

/-- What a token claims: whose it is, and when it ends and was issued, in seconds. -/
structure Claims where
  subject : String
  expiry : Int
  issuedAt : Int
  deriving DecidableEq, Repr

namespace Claims

/-- The fields of claims. -/
def fields : Json.Record Claims :=
  Claims.mk <$> .required "sub" Json.text <*> .required "exp" Json.size
    <*> .required "iat" Json.size

/-- Claims as JSON. -/
def toJson (c : Claims) : Json.Value :=
  .obj [("sub", .str c.subject), ("exp", .ofInt c.expiry), ("iat", .ofInt c.issuedAt)]

end Claims

namespace AdminToken

/-- The names of the ways to sign. -/
def algorithms : List (String × String) :=
  ["HS256", "HS384", "HS512", "ES256", "ES384", "RS256", "RS384", "RS512", "PS256", "PS384",
    "PS512", "EdDSA"].map fun name => (name, name)

/-- The way in which this panel signs. -/
def ownAlgorithm : String := "HS256"

/-- A key in a header: an object with the fields that its kind needs. -/
def embeddedKey : Json.Decoder Unit := fun source doc => do
  let value ← Json.anything source doc
  let needed := match value.get? "kty" with
    | some (.str "EC") => ["crv", "x", "y"]
    | some (.str "RSA") => ["n", "e"]
    | some (.str "OKP") => ["crv", "x"]
    | some (.str "oct") => ["k"]
    | _ => ["kty"]
  if needed.all fun key => value.hasKey key then .ok () else Json.mismatch "a key" doc

/-- The way of signing that a header names, and the texts that it may hold besides. -/
def header : Json.Record String :=
  (fun _ algorithm _ _ _ _ _ _ _ _ => algorithm) <$> .optional "typ" Json.text
    <*> .required "alg" (Json.choice algorithms)
    <*> .optional "cty" Json.text
    <*> .optional "jku" Json.text
    <*> .optional "jwk" embeddedKey
    <*> .optional "kid" Json.text
    <*> .optional "x5u" Json.text
    <*> .optional "x5c" (Json.list Json.text)
    <*> .optional "x5t" Json.text
    <*> .optional "x5t#S256" Json.text

/-- Whether a document is the name of an audience or a list of names. -/
def isAudience (doc : Json.Doc) : Bool :=
  (Json.text .text doc).isOk || (Json.list Json.text .text doc).isOk

/-- Whether a document has parts. -/
def hasParts : Json.Doc → Bool
  | .arr [] .closed | .obj [] .closed => false
  | .arr .. | .obj .. => true
  | _ => false

/-- What the registered claims of a token say beside those of `Claims`: whether there is an
audience. A claim may stand once; the beginning of the validity may not have parts. -/
def audienceOf : Json.Doc → Except TokenFault Bool
  | .obj entries _ =>
    let keys := entries.filterMap fun entry => entry.1.toOption
    let repeated := ["exp", "nbf", "sub", "iss", "aud"].any fun key => 1 < keys.count key
    if repeated || (Json.Record.fieldDoc? entries "nbf").any hasParts then .error .json
    else .ok ((Json.Record.fieldDoc? entries "aud").any isAudience)
  | _ => .error .json

/-- Text in Base64. -/
def encoded (v : Json.Value) : String := Text.Base64.encode (Text.bytesOf v.render)

/-- The signature of the first two parts of a token. -/
def signature (secret message : String) : String :=
  Text.Base64.encode (Digest.hmacSha256 (Text.bytesOf secret) (Text.bytesOf message))

/-- The seconds for which a token is valid. -/
def lifetime : Int := 86400

/-- The seconds for which a token is accepted beyond its expiry. -/
def leeway : Int := 60

/-- The header of the tokens of this panel. -/
def ownHeader : Json.Value := .obj [("typ", .str "JWT"), ("alg", .str ownAlgorithm)]

/-- A token with given claims. -/
def ofClaims (secret : String) (claims : Claims) : String :=
  let message := encoded ownHeader ++ "." ++ encoded claims.toJson
  message ++ "." ++ signature secret message

/-- The token that is issued to a user. -/
def issue (secret user : String) (now : Int) : String :=
  ofClaims secret ⟨user, now + lifetime, now⟩

/-- The parts before and after the last point. -/
def splitLast? (cs : List Char) : Option (List Char × List Char) :=
  (Text.splitFirst? '.' cs.reverse).map fun (back, front) => (front.reverse, back.reverse)

/-- The document of a part in Base64. -/
def document (part : List Char) : Except TokenFault (Json.Doc × Bool) :=
  match Text.Base64.decode? part with
  | some bytes => .ok (Json.Doc.ofBytes bytes)
  | none => .error .base64

/-- Reads a record from a document. -/
def readRecord {α : Type} (r : Json.Record α) (scan : Json.Doc × Bool) : Except TokenFault α :=
  ((r.decoder "" false).ofScan scan).mapError fun _ => .json

/-- The claims of a token that is signed with a secret and valid at a time. -/
def check (secret : String) (now : Int) (token : String) : Except TokenFault Claims := do
  let some (message, signed) := splitLast? token.toList | .error .parts
  let some (head, payload) := splitLast? message | .error .parts
  let algorithm ← readRecord header (← document head)
  if algorithm ≠ ownAlgorithm then .error .algorithm
  if String.ofList signed ≠ signature secret (String.ofList message) then .error .signature
  let scan ← document payload
  let claims ← readRecord Claims.fields scan
  let hasAudience ← audienceOf scan.1
  if claims.expiry < now - leeway then .error .expired
  if hasAudience then .error .audience
  .ok claims

end AdminToken

end NodeFleet.Api
