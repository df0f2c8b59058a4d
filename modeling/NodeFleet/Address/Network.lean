import NodeFleet.Address.Ipv6
import NodeFleet.Error
import NodeFleet.Text.Ascending
import NodeFleet.Text.Blank

/-!
IP addresses, networks, and the white list of a node.

An entry of a white list is an address, or an address and the length of a network prefix. The
list is kept canonical: each entry in its one written form, ascending and without repetition.
-/

namespace NodeFleet

/-- An IP address of either version. -/
inductive IpAddress where
  | v4 (ip : Ipv4)
  | v6 (ip : Ipv6)
  deriving DecidableEq

namespace IpAddress

/-- Reads an address of either version. -/
def read? (cs : List Char) : Option IpAddress :=
  ((Ipv4.read? cs).map .v4).or ((Ipv6.read? cs).map .v6)

/-- The characters of the text of an address. -/
def chars : IpAddress → List Char
  | .v4 ip => ip.chars
  | .v6 ip => ip.chars

/-- The text of an address. -/
def text (ip : IpAddress) : String := String.ofList ip.chars

/-- The number of bits of an address. -/
def bits : IpAddress → Nat
  | .v4 _ => 32
  | .v6 _ => 128

/-- Whether an address names the host itself. -/
def isLoopback : IpAddress → Bool
  | .v4 ip => ip.isLoopback
  | .v6 ip => ip.isLoopback

/-- Whether an address names no host. -/
def isUnspecified : IpAddress → Bool
  | .v4 ip => ip.isUnspecified
  | .v6 ip => ip.isUnspecified

end IpAddress

/-- An address, or the network of all addresses that agree with it in their first bits. -/
structure Network where
  address : IpAddress
  length? : Option Nat
  deriving DecidableEq

namespace Network

/-- The length of a prefix, at most `limit`. -/
def readLength? (limit : Nat) (cs : List Char) : Option Nat :=
  match Text.readNat 255 cs with
  | .ok n => if n ≤ limit then some n else none
  | .error _ => none

/-- Reads an entry without blanks around it. -/
def read? (cs : List Char) : Option Network :=
  match Text.splitFirst? '/' cs with
  | none => (IpAddress.read? cs).map (⟨·, none⟩)
  | some (address, length) => do
    let ip ← IpAddress.read? address
    let n ← readLength? ip.bits length
    some ⟨ip, some n⟩

/-- The written form of an entry. -/
def text (n : Network) : String :=
  match n.length? with
  | none => n.address.text
  | some length => n.address.text ++ "/" ++ Text.showNat length

/-- An entry in its written form. -/
def canonical (entry : String) : Except Error String :=
  match read? (Text.trimChars entry.toList) with
  | some n => .ok n.text
  | none => .error (.validation ("Некорректный IP/CIDR: " ++ Text.trim entry))

/-- A white list in its canonical form; the first entry that cannot be read is refused. -/
def whitelist (entries : List String) : Except Error (List String) :=
  (entries.mapM canonical).map Text.ascending

end Network

end NodeFleet
