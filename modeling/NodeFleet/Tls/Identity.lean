import NodeFleet.Tls.Der
import NodeFleet.Tls.Pem

/-!
The identity of a server: its certificates, and the private key of the first of them.

A private key and a certificate belong together when both name the same public key. A key of an
elliptic curve holds its public key; of the curves, those with 256 and 384 bits are known. An RSA
key begins with its modulus and its public exponent, which are its public key.
-/

namespace NodeFleet.Tls

/-- Why certificates and a key are no identity. -/
inductive IdentityFault where
  | badSection (fault : Pem.Fault)
  /-- The text of the key has no key, or several. -/
  | keyCount
  /-- The key has none of the known forms. -/
  | keyForm
  /-- The key has a known form, but no known algorithm or wrong contents. -/
  | keyContents
  | noCertificate
  | badCertificate
  | otherKey
  deriving DecidableEq, Repr

/-- The wording of each fault. -/
def IdentityFault.message : IdentityFault → String
  | .badSection fault => fault.message
  | .keyCount => "private key format not supported"
  | .keyForm => "unknown or invalid key format"
  | .keyContents => "unexpected error: failed to parse private key as RSA, ECDSA, or EdDSA"
  | .noCertificate => "peer sent no certificates"
  | .badCertificate => "invalid peer certificate: BadEncoding"
  | .otherKey => "keys may not be consistent: KeyMismatch"

/-- The forms of private keys, told by the bytes at their start. -/
inductive KeyForm where
  /-- An algorithm and a key of it. -/
  | general
  | rsa
  | curve
  deriving DecidableEq, Repr

/-- The form of a key. -/
def keyForm? (key : List UInt8) : Option KeyForm :=
  match key with
  | tag :: length :: _ =>
    if tag ≠ Der.sequenceTag then none
    else
      let skipped := if length < 0x80 then 2 else 2 + (length.toNat - 0x80)
      if key.length < skipped then none
      else
        match key.drop skipped with
        | 0x02 :: 0x01 :: _ :: 0x30 :: _ => some .general
        | 0x02 :: 0x01 :: 0x00 :: _ => some .rsa
        | 0x02 :: 0x01 :: 0x01 :: _ => some .curve
        | _ => none
  | _ => none

/-- The identifier of keys of elliptic curves. -/
def curveKeys : List UInt8 := [0x2A, 0x86, 0x48, 0xCE, 0x3D, 0x02, 0x01]

/-- The identifiers of the known curves, with the lengths of their private keys in bytes. -/
def knownCurves : List (List UInt8 × Nat) :=
  [([0x2A, 0x86, 0x48, 0xCE, 0x3D, 0x03, 0x01, 0x07], 32),
    ([0x2B, 0x81, 0x04, 0x00, 0x22], 48)]

/-- The algorithm of keys of a curve. -/
def curveAlgorithm (curve : List UInt8) : List UInt8 :=
  Der.bytes Der.sequenceTag
    (Der.bytes Der.identifierTag curveKeys ++ Der.bytes Der.identifierTag curve)

/-- The description of a public key: its algorithm and its bits. -/
def publicKeyInfo (algorithm bits : List UInt8) : List UInt8 :=
  Der.bytes Der.sequenceTag (algorithm ++ Der.bytes Der.bitStringTag bits)

/-- The identifier of RSA keys. -/
def rsaKeys : List UInt8 := [0x2A, 0x86, 0x48, 0x86, 0xF7, 0x0D, 0x01, 0x01, 0x01]

/-- The algorithm of RSA keys, which has no parameters. -/
def rsaAlgorithm : List UInt8 :=
  Der.bytes Der.sequenceTag (Der.bytes Der.identifierTag rsaKeys ++ [0x05, 0x00])

/-- The public key inside an RSA key: its modulus, of 2048 to 4096 bits, and its exponent. -/
def rsaPublicKey? (key : List UInt8) : Option (List UInt8) := do
  let fields ← Der.only? Der.sequenceTag key
  let (version, rest) ← Der.readTagged? Der.integerTag fields
  let (modulus, rest) ← Der.readTagged? Der.integerTag rest
  let (exponent, rest) ← Der.readTagged? Der.integerTag rest
  let size := (modulus.dropWhile (· = 0)).length
  if version = [0] ∧ 256 ≤ size ∧ size ≤ 512 ∧ !rest.isEmpty then
    some (publicKeyInfo rsaAlgorithm (0 :: Der.bytes Der.sequenceTag
      (Der.bytes Der.integerTag modulus ++ Der.bytes Der.integerTag exponent)))
  else none

/-- The curve in an algorithm of keys of curves. -/
def curve? (algorithm : List UInt8) : Option (List UInt8) := do
  let fields ← Der.only? Der.sequenceTag algorithm
  let (kind, rest) ← Der.readTagged? Der.identifierTag fields
  if kind = curveKeys then Der.only? Der.identifierTag rest else none

/-- The public key inside a key of a curve that may be named outside of it: the bits after a private
key of the right length. -/
def curvePublicKey? (named : Option (List UInt8)) (key : List UInt8) : Option (List UInt8) := do
  let fields ← Der.only? Der.sequenceTag key
  let (version, rest) ← Der.readTagged? Der.integerTag fields
  let (secret, rest) ← Der.readTagged? Der.octetStringTag rest
  let inner := (Der.readTagged? (Der.fieldTag 0) rest).bind fun (field, _) =>
    Der.only? Der.identifierTag field
  let curve ← named.or inner
  let size ← knownCurves.lookup curve
  let (field, _) ← Der.readTagged? (Der.fieldTag 1) (Der.skip (Der.fieldTag 0) rest)
  let bits ← Der.only? Der.bitStringTag field
  if version = [1] ∧ secret.length = size ∧ bits.length = 2 * size + 2 then
    some (publicKeyInfo (curveAlgorithm curve) bits)
  else none

/-- The public key inside a private key. -/
def publicKey? (form : KeyForm) (key : List UInt8) : Option (List UInt8) :=
  match form with
  | .general => do
    let fields ← Der.only? Der.sequenceTag key
    let (_, rest) ← Der.readTagged? Der.integerTag fields
    let (algorithm, rest) ← Der.cut? rest
    let (inner, _) ← Der.readTagged? Der.octetStringTag rest
    if algorithm = rsaAlgorithm then rsaPublicKey? inner
    else curvePublicKey? (some (← curve? algorithm)) inner
  | .curve => curvePublicKey? none key
  | .rsa => rsaPublicKey? key

/-- The public key of a certificate: the seventh field of what is signed, of which the first may be
missing. -/
def certifiedKey? (certificate : List UInt8) : Option (List UInt8) := do
  let fields ← Der.only? Der.sequenceTag certificate
  let (signed, _) ← Der.readTagged? Der.sequenceTag fields
  let rest := Der.skip (Der.fieldTag 0) signed
  let (_, rest) ← Der.readTagged? Der.integerTag rest
  let (_, rest) ← Der.readTagged? Der.sequenceTag rest
  let (_, rest) ← Der.readTagged? Der.sequenceTag rest
  let (_, rest) ← Der.readTagged? Der.sequenceTag rest
  let (_, rest) ← Der.readTagged? Der.sequenceTag rest
  let (info, _) ← Der.cut? rest
  some info

/-- The certificates in a text; the first fault decides. -/
def readCertificates (text : List UInt8) : Except IdentityFault (List (List UInt8)) := do
  let sections ← (Pem.read text).mapM fun entry => entry.mapError .badSection
  .ok ((sections.filter (·.kind = .certificate)).map (·.contents))

/-- The one private key in a text; faults of other sections are passed over. -/
def readKey (text : List UInt8) : Except IdentityFault (List UInt8) :=
  let keys := (Pem.read text).filterMap fun
    | .ok found => if found.kind.isKey then some found.contents else none
    | .error _ => none
  match keys with
  | [key] => .ok key
  | _ => .error .keyCount

/-- An identity: the first certificate names the public key of the private key. -/
structure Identity where
  certificates : List (List UInt8)
  key : List UInt8
  deriving DecidableEq, Repr

/-- Reads an identity from the texts of its certificates and its key. -/
def Identity.read (certificateText keyText : List UInt8) : Except IdentityFault Identity := do
  let certificates ← readCertificates certificateText
  let key ← readKey keyText
  match keyForm? key with
  | none => .error .keyForm
  | some form =>
    match publicKey? form key, certificates with
    | none, _ => .error .keyContents
    | some _, [] => .error .noCertificate
    | some publicKey, first :: _ =>
      match certifiedKey? first with
      | none => .error .badCertificate
      | some certified =>
        if publicKey = certified then .ok ⟨certificates, key⟩ else .error .otherKey

end NodeFleet.Tls
