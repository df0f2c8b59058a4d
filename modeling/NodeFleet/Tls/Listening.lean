import NodeFleet.Address.Socket
import NodeFleet.Text.Utf8
import NodeFleet.Tls.Identity
import NodeFleet.Tls.Mode

/-!
What the panel needs before it listens: an address, and in the modes with encryption an identity.

The address is read first. A certificate that is made at the start names a domain, which has to be
ASCII; a given certificate is read from a file, and its key from another.
-/

namespace NodeFleet.Tls

/-- Where and how the panel listens. -/
structure Listening where
  /-- The text of a socket address. -/
  address : String
  mode : TlsMode
  /-- The domain in a certificate that is made at the start. -/
  domain : String
  certificatePath : String
  keyPath : String
  deriving DecidableEq, Repr

/-- What listening meets: the contents of files, and the addresses of this host. -/
structure Host where
  file? : String → Option (List UInt8)
  isOwn : IpAddress → Bool

/-- Why the panel cannot listen. -/
inductive ListeningFault where
  | badAddress
  | badDomain (domain : String)
  | missingFile (path : String)
  | badIdentity (fault : IdentityFault)
  | foreignAddress
  deriving DecidableEq, Repr

/-- The wording of each fault. -/
def ListeningFault.message : ListeningFault → String
  | .badAddress => "invalid socket address syntax"
  | .badDomain domain => "Ошибка генерации сертификата: Invalid IA5String: '" ++ domain ++ "'"
  | .missingFile path =>
    "failed to read from file \x60" ++ path ++ "\x60: No such file or directory (os error 2)"
  | .badIdentity fault => fault.message
  | .foreignAddress => "Cannot assign requested address (os error 99)"

namespace Listening

/-- Whether a certificate can name a domain. -/
def isCertifiable (domain : String) : Bool := domain.toList.all fun c => c.toNat < 0x80

/-- The contents of a file that has to be there. -/
def contents (host : Host) (path : String) : Except ListeningFault (List UInt8) :=
  match host.file? path with
  | some contents => .ok contents
  | none => .error (.missingFile path)

/-- Gets the identity that a mode needs. -/
def prepare (host : Host) (l : Listening) : Except ListeningFault Unit :=
  match l.mode with
  | .none => .ok ()
  | .selfSigned => if isCertifiable l.domain then .ok () else .error (.badDomain l.domain)
  | .certificate => do
    let certificates ← contents host l.certificatePath
    let key ← contents host l.keyPath
    let _ ← (Identity.read certificates key).mapError .badIdentity
    .ok ()

/-- The address at which the panel listens. -/
def start (host : Host) (l : Listening) : Except ListeningFault SocketAddress :=
  match SocketAddress.read? l.address.toList with
  | none => .error .badAddress
  | some address => do
    l.prepare host
    if host.isOwn address.ip then .ok address else .error .foreignAddress

end Listening

end NodeFleet.Tls
