/-!
Elements of the distinguished encoding of ASN.1: a tag, a length and contents.

A length below 128 is one byte; a longer one is the number of its bytes and these bytes, the most
significant first and without leading zeros.
-/

namespace NodeFleet.Tls.Der

/-- An element. -/
structure Element where
  tag : UInt8
  contents : List UInt8
  deriving DecidableEq, Repr

/-- The tags that certificates and keys are made of. -/
def integerTag : UInt8 := 0x02
def bitStringTag : UInt8 := 0x03
def octetStringTag : UInt8 := 0x04
def identifierTag : UInt8 := 0x06
def sequenceTag : UInt8 := 0x30

/-- The tag of a field with an explicit number. -/
def fieldTag (number : UInt8) : UInt8 := 0xA0 + number

/-- The number of bytes given by a long length. -/
def longLength? (digits : List UInt8) : Option Nat :=
  let n := digits.foldl (fun n b => 256 * n + b.toNat) 0
  if digits.head? = some 0 ∨ n < 128 then none else some n

/-- A length, and the bytes after it. -/
def readLength? : List UInt8 → Option (Nat × List UInt8)
  | [] => none
  | b :: rest =>
    if b < 0x80 then some (b.toNat, rest)
    else
      let count := b.toNat - 0x80
      if count = 0 ∨ 4 < count ∨ rest.length < count then none
      else (longLength? (rest.take count)).map fun n => (n, rest.drop count)

/-- The first element, and the bytes after it. -/
def read? : List UInt8 → Option (Element × List UInt8)
  | [] => none
  | tag :: rest => do
    let (length, rest) ← readLength? rest
    if rest.length < length then none
    else some (⟨tag, rest.take length⟩, rest.drop length)

/-- The contents of the first element, which has a tag, and the bytes after it. -/
def readTagged? (tag : UInt8) (bytes : List UInt8) : Option (List UInt8 × List UInt8) := do
  let (element, rest) ← read? bytes
  if element.tag = tag then some (element.contents, rest) else none

/-- The contents of an element that has a tag and nothing after it. -/
def only? (tag : UInt8) (bytes : List UInt8) : Option (List UInt8) := do
  let (contents, rest) ← readTagged? tag bytes
  if rest.isEmpty then some contents else none

/-- The bytes of the first element, and the bytes after it. -/
def cut? (bytes : List UInt8) : Option (List UInt8 × List UInt8) := do
  let (_, rest) ← read? bytes
  some (bytes.take (bytes.length - rest.length), rest)

/-- The bytes after the first element if it has a tag, else all bytes. -/
def skip (tag : UInt8) (bytes : List UInt8) : List UInt8 :=
  match readTagged? tag bytes with
  | some (_, rest) => rest
  | none => bytes

/-- The bytes of a length. -/
def lengthBytes (n : Nat) : List UInt8 :=
  if n < 128 then [UInt8.ofNat n]
  else if n < 256 then [0x81, UInt8.ofNat n]
  else [0x82, UInt8.ofNat (n / 256), UInt8.ofNat n]

/-- The bytes of an element with contents of fewer than `2 ^ 16` bytes. -/
def bytes (tag : UInt8) (contents : List UInt8) : List UInt8 :=
  tag :: (lengthBytes contents.length ++ contents)

end NodeFleet.Tls.Der
