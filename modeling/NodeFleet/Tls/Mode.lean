import NodeFleet.Text.LowerCase

/-!
How the panel protects its connections.
-/

namespace NodeFleet

/-- Without encryption, with a certificate made at each start, or with a given certificate. -/
inductive TlsMode where
  | none
  | selfSigned
  | certificate
  deriving DecidableEq, Repr

/-- The name of a mode. -/
def TlsMode.name : TlsMode → String
  | .none => "none"
  | .selfSigned => "self-signed"
  | .certificate => "cert"

/-- The error of a name, in lower case, that no mode has. -/
def TlsMode.unknown (name : String) : String :=
  "Неизвестный режим TLS: " ++ name ++ ". Допустимые: none, self-signed, cert"

/-- Reads the name of a mode in any case; the hyphen may be left out. -/
def TlsMode.read (s : String) : Except String TlsMode :=
  let name := Text.lower s
  if name = "none" then .ok .none
  else if name = "self-signed" ∨ name = "selfsigned" then .ok .selfSigned
  else if name = "cert" then .ok .certificate
  else .error (unknown name)

end NodeFleet
