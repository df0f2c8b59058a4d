import NodeFleet.Text.Integer
import NodeFleet.Text.Split

/-!
IPv4 addresses and their dotted text: four decimal numbers without leading zeros.
-/

namespace NodeFleet

/-- An IPv4 address, octet by octet. -/
structure Ipv4 where
  a : UInt8
  b : UInt8
  c : UInt8
  d : UInt8
  deriving DecidableEq, Repr

namespace Ipv4

/-- The address of a number of 32 bits. -/
def ofNat (n : Nat) : Ipv4 :=
  ⟨.ofNat (n / 16777216), .ofNat (n / 65536), .ofNat (n / 256), .ofNat n⟩

/-- An octet in decimal: at most three digits, and no zero in front of others. -/
def readOctet? (cs : List Char) : Option UInt8 :=
  match cs with
  | [] => none
  | '0' :: _ :: _ => none
  | _ =>
    match Text.readDigits 255 .tooLarge 0 cs with
    | .ok n => some (.ofNat n)
    | .error _ => none

/-- Reads a dotted address. -/
def read? (cs : List Char) : Option Ipv4 :=
  match Text.splitAll '.' cs with
  | [a, b, c, d] => do
    some ⟨← readOctet? a, ← readOctet? b, ← readOctet? c, ← readOctet? d⟩
  | _ => none

/-- The characters of the dotted text. -/
def chars (ip : Ipv4) : List Char :=
  Text.joinAll ['.'] ([ip.a, ip.b, ip.c, ip.d].map fun o => Nat.toDigits 10 o.toNat)

/-- Addresses of the host itself: `127.0.0.0/8`. -/
def isLoopback (ip : Ipv4) : Bool := ip.a == 127

/-- The address `0.0.0.0`. -/
def isUnspecified (ip : Ipv4) : Bool := ip == ⟨0, 0, 0, 0⟩

end Ipv4

end NodeFleet
