import NodeFleet.Address.Network

/-!
Socket addresses: an IP address and a port. The text of an IPv6 address stands in brackets, and
may end with the number of a scope.
-/

namespace NodeFleet

/-- An address and a port. -/
structure SocketAddress where
  ip : IpAddress
  port : Nat
  deriving DecidableEq

namespace SocketAddress

/-- A decimal number of at most `limit`, without a sign. -/
def readNumber? (limit : Nat) (cs : List Char) : Option Nat :=
  if cs.isEmpty then none
  else
    match Text.readDigits limit .tooLarge 0 cs with
    | .ok n => some n
    | .error _ => none

/-- A port after its colon. -/
def readPort? : List Char → Option Nat
  | ':' :: cs => readNumber? 65535 cs
  | _ => none

/-- Reads an address in brackets, with or without a scope. -/
def readScoped? (cs : List Char) : Option Ipv6 :=
  match Text.splitFirst? '%' cs with
  | none => Ipv6.read? cs
  | some (address, scope) => (readNumber? 4294967295 scope).bind fun _ => Ipv6.read? address

/-- Reads a socket address. -/
def read? (cs : List Char) : Option SocketAddress :=
  match cs with
  | '[' :: cs => do
    let (address, rest) ← Text.splitFirst? ']' cs
    some ⟨.v6 (← readScoped? address), ← readPort? rest⟩
  | cs => do
    let (address, port) ← Text.splitFirst? ':' cs
    some ⟨.v4 (← Ipv4.read? address), ← readNumber? 65535 port⟩

end SocketAddress

end NodeFleet
