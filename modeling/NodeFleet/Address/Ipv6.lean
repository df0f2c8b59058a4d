import NodeFleet.Address.Ipv4
import NodeFleet.Text.Hex

/-!
IPv6 addresses and their text.

An address is eight groups of sixteen bits. Its text names the groups in hexadecimal; two colons in
a row stand for a run of zero groups, at least one, and the last two groups may be written as an
IPv4 address. The text written for an address leaves out the first of its longest runs of two or
more zero groups, and writes an IPv4-mapped address with a dotted end.
-/

namespace NodeFleet

/-- An IPv6 address, group by group. -/
structure Ipv6 where
  groups : List UInt16
  length_groups : groups.length = 8
  deriving DecidableEq

namespace Ipv6

/-- The address of a list of groups, if there are eight. -/
def ofGroups? (groups : List UInt16) : Option Ipv6 :=
  if h : groups.length = 8 then some ⟨groups, h⟩ else none

/-- The number of hexadecimal digits. -/
def readHex? (value : Nat) : List Char → Option Nat
  | [] => some value
  | c :: cs => (Text.hexValue? c).bind fun d => readHex? (16 * value + d) cs

/-- A group: one to four hexadecimal digits. -/
def readGroup? (cs : List Char) : Option UInt16 :=
  if cs.isEmpty || 4 < cs.length then none else (readHex? 0 cs).map .ofNat

/-- The two groups of an IPv4 address. -/
def groupsOfIpv4 (ip : Ipv4) : List UInt16 :=
  [.ofNat (256 * ip.a.toNat + ip.b.toNat), .ofNat (256 * ip.c.toNat + ip.d.toNat)]

/-- The groups of the pieces between colons, the last of which may be an IPv4 address. -/
def readGroups? : List (List Char) → Option (List UInt16)
  | [] => some []
  | [piece] =>
    match readGroup? piece with
    | some g => some [g]
    | none => (Ipv4.read? piece).map groupsOfIpv4
  | piece :: more => do
    let g ← readGroup? piece
    let gs ← readGroups? more
    some (g :: gs)

/-- The groups of a text that may be empty. -/
def readPart? (cs : List Char) : Option (List UInt16) :=
  if cs.isEmpty then some [] else readGroups? (Text.splitAll ':' cs)

/-- The parts before and after the first two colons in a row. -/
def splitGap? : List Char → Option (List Char × List Char)
  | ':' :: ':' :: rest => some ([], rest)
  | c :: rest => (splitGap? rest).map fun (before, after) => (c :: before, after)
  | [] => none

/-- Reads an address. -/
def read? (cs : List Char) : Option Ipv6 :=
  match splitGap? cs with
  | none => (readGroups? (Text.splitAll ':' cs)).bind ofGroups?
  | some (before, after) => do
    let front ← readPart? before
    let back ← readPart? after
    if '.' ∈ before ∨ 7 < front.length + back.length then none
    else ofGroups? (front ++ List.replicate (8 - front.length - back.length) 0 ++ back)

/-- The number of zero groups at the head of a list. -/
def zerosAhead (groups : List UInt16) : Nat := (groups.takeWhile (· == 0)).length

/-- The place and the length of the first of the longest runs of zero groups. -/
def longestZeros : List UInt16 → Nat × Nat
  | [] => (0, 0)
  | g :: gs =>
    let (start, length) := longestZeros gs
    let here := zerosAhead (g :: gs)
    if length ≤ here then (0, here) else (start + 1, length)

/-- Groups in hexadecimal with colons between them. -/
def groupChars (groups : List UInt16) : List Char :=
  Text.joinAll [':'] (groups.map fun g => Nat.toDigits 16 g.toNat)

/-- The text of an address in hexadecimal throughout. -/
def hexChars (ip : Ipv6) : List Char :=
  let (start, length) := longestZeros ip.groups
  if 2 ≤ length then
    groupChars (ip.groups.take start) ++ [':', ':'] ++ groupChars (ip.groups.drop (start + length))
  else groupChars ip.groups

/-- The IPv4 address that an address stands for, when its first groups are those of the mapping. -/
def mapped? (ip : Ipv6) : Option Ipv4 :=
  match ip.groups with
  | [0, 0, 0, 0, 0, 0xFFFF, g, h] => some (Ipv4.ofNat (65536 * g.toNat + h.toNat))
  | _ => none

/-- The characters of the text of an address. -/
def chars (ip : Ipv6) : List Char :=
  match ip.mapped? with
  | some v4 => "::ffff:".toList ++ v4.chars
  | none => ip.hexChars

/-- The address `::1`. -/
def isLoopback (ip : Ipv6) : Bool := ip.groups == [0, 0, 0, 0, 0, 0, 0, 1]

/-- The address `::`. -/
def isUnspecified (ip : Ipv6) : Bool := ip.groups == [0, 0, 0, 0, 0, 0, 0, 0]

end Ipv6

end NodeFleet
