import NodeFleet.Digest.Sha256

/-!
Keyed digests with SHA-256.
-/

namespace NodeFleet.Digest

/-- A key brought to the block length of 64 bytes: a longer key is replaced by its digest. -/
def blockKey (key : List UInt8) : List UInt8 :=
  let short := if key.length > 64 then sha256 key else key
  short ++ List.replicate (64 - short.length) 0

/-- The keyed digest of a message: a digest over the key and the digest over the key and the
message, the key masked differently each time. -/
def hmacSha256 (key message : List UInt8) : List UInt8 :=
  let k := blockKey key
  sha256 (k.map (· ^^^ 0x5c) ++ sha256 (k.map (· ^^^ 0x36) ++ message))

end NodeFleet.Digest
