/-!
Base64 with the alphabet that is safe in URLs, without padding.

Three bytes become four digits; one or two bytes left over become two or three digits whose unused
bits are zero. Reading refuses any other character, a single left-over digit, and unused bits that
are not zero, so each list of bytes has one written form.
-/

namespace NodeFleet.Text.Base64

/-- The digit of a value below 64. -/
def digit (n : Nat) : Char :=
  if n < 26 then Char.ofNat ('A'.toNat + n)
  else if n < 52 then Char.ofNat ('a'.toNat + (n - 26))
  else if n < 62 then Char.ofNat ('0'.toNat + (n - 52))
  else if n == 62 then '-' else '_'

/-- The value of a digit. -/
def value? (c : Char) : Option Nat :=
  if 'A' ≤ c && c ≤ 'Z' then some (c.toNat - 'A'.toNat)
  else if 'a' ≤ c && c ≤ 'z' then some (c.toNat - 'a'.toNat + 26)
  else if '0' ≤ c && c ≤ '9' then some (c.toNat - '0'.toNat + 52)
  else if c == '-' then some 62
  else if c == '_' then some 63
  else none

/-- The digits of a byte list. -/
def encodeChars : List UInt8 → List Char
  | [] => []
  | [a] =>
    let n := a.toNat <<< 4
    [digit (n >>> 6), digit (n % 64)]
  | [a, b] =>
    let n := (a.toNat <<< 10) + (b.toNat <<< 2)
    [digit (n >>> 12), digit ((n >>> 6) % 64), digit (n % 64)]
  | a :: b :: c :: rest =>
    let n := (a.toNat <<< 16) + (b.toNat <<< 8) + c.toNat
    digit (n >>> 18) :: digit ((n >>> 12) % 64) :: digit ((n >>> 6) % 64) :: digit (n % 64)
      :: encodeChars rest

/-- The digits of a byte list, as a text. -/
def encode (bytes : List UInt8) : String :=
  String.ofList (encodeChars bytes)

/-- The bytes that digits stand for. -/
def decodeValues : List Nat → Option (List UInt8)
  | [] => some []
  | [_] => none
  | [a, b] => if b % 16 == 0 then some [UInt8.ofNat ((a <<< 2) + (b >>> 4))] else none
  | [a, b, c] =>
    if c % 4 == 0 then
      some [UInt8.ofNat ((a <<< 2) + (b >>> 4)), UInt8.ofNat (((b % 16) <<< 4) + (c >>> 2))]
    else none
  | a :: b :: c :: d :: rest => do
    let more ← decodeValues rest
    return UInt8.ofNat ((a <<< 2) + (b >>> 4)) :: UInt8.ofNat (((b % 16) <<< 4) + (c >>> 2))
      :: UInt8.ofNat (((c % 4) <<< 6) + d) :: more

/-- The bytes that a text stands for, if it is a written form. -/
def decode? (cs : List Char) : Option (List UInt8) :=
  (cs.mapM value?).bind decodeValues

end NodeFleet.Text.Base64
