import NodeFleet.Digest.Sha256
import NodeFleet.Fleet.Panel

/-!
The life of a node's token: issue, rotation, revocation, authentication.

The tables hold the digest of a token; its value is shown once, to the one who asked for it. A node
has one token at most: issuing replaces it, and rotation replaces it while it is valid.
-/

namespace NodeFleet

/-- The digest under which the value of a token is stored. -/
def tokenDigest (value : String) : String := Digest.sha256Hex value

/-- What is known of a token, without its value. -/
structure TokenInfo where
  state : TokenState
  issuedAt : Option String
  revokedAt : Option String
  deriving DecidableEq, Repr

/-- Token information as JSON. -/
def TokenInfo.toJson (i : TokenInfo) : Json.Value :=
  .object [("state", .str i.state.name), ("issued_at", .ofText? i.issuedAt),
    ("revoked_at", .ofText? i.revokedAt)]

/-- What a revocation found. -/
inductive RevokeOutcome where
  | revoked
  | alreadyRevoked
  deriving DecidableEq, Repr

/-- The state of a token. -/
def Token.state (t : Token) : TokenState :=
  if t.revokedAt.isSome then .revoked else .issued

namespace Fleet

/-- What is known of the token of a node. -/
def tokenInfo (f : Fleet) (nodeId : Int) : TokenInfo :=
  match f.token? nodeId with
  | none => ⟨.none, none, none⟩
  | some t => ⟨t.state, some t.issuedAt, t.revokedAt⟩

/-- The error of a digest that another token has. -/
def digestTaken : Error :=
  .internal ("Execution Error: error returned from database: (code: 2067) "
    ++ "UNIQUE constraint failed: node_tokens.token_hash")

/-- Refuses a digest that the token of another node has. -/
def checkDigest (nodeId : Int) (digest : String) (f : Fleet) : Except Error Unit :=
  if f.tokens.any fun t => t.nodeId ≠ nodeId ∧ t.digest = digest then .error digestTaken
  else .ok ()

/-- Stores a token in the place of the one that its node has, or as a new row. -/
def putToken (token : Token) (f : Fleet) : Fleet :=
  { f with tokens := upsert (·.nodeId) token f.tokens }

/-- Changes the token of a node unless it is revoked. -/
def updateValidToken (nodeId : Int) (change : Token → Token) (f : Fleet) : Fleet :=
  { f with
    tokens := f.tokens.map fun t =>
      if t.nodeId = nodeId ∧ t.revokedAt = none then change t else t }

/-- Issues a token to a node; an earlier token, valid or revoked, is replaced. -/
def issueToken (now : Instant) (value : String) (nodeId : Int) : Transaction String := do
  let _ ← Transaction.read (findNode nodeId)
  let token : Token := ⟨nodeId, tokenDigest value, now.toText, none⟩
  Transaction.read (checkDigest nodeId token.digest)
  Transaction.change (putToken token)
  pure value

/-- Replaces the valid token of a node. -/
def rotateToken (now : Instant) (value : String) (nodeId : Int) : Transaction String := do
  let digest := tokenDigest value
  Transaction.read fun f =>
    if f.tokens.any fun t => t.nodeId = nodeId ∧ t.revokedAt = none then
      checkDigest nodeId digest f
    else
      .error (.notFound ("У узла " ++ Text.showInt nodeId ++ " нет активного токена для ротации"))
  Transaction.change (updateValidToken nodeId fun t =>
    { t with digest := digest, issuedAt := now.toText })
  pure value

/-- Revokes the token of a node; a revoked token stays as it is. -/
def revokeToken (now : Instant) (nodeId : Int) : Transaction RevokeOutcome := fun f =>
  match f.token? nodeId with
  | none =>
    .error (.notFound ("У узла " ++ Text.showInt nodeId ++ " нет токена для отзыва"))
  | some token =>
    if token.revokedAt.isSome then .ok (.alreadyRevoked, f)
    else
      .ok (.revoked,
        f.updateValidToken nodeId fun t => { t with revokedAt := some now.toText })

/-- The node whose valid token has a given value. -/
def authenticate (value : String) (f : Fleet) : Option Int :=
  (f.tokens.find? fun t => t.digest = tokenDigest value ∧ t.revokedAt = none).map (·.nodeId)

end Fleet

end NodeFleet
