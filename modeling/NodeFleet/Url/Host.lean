import NodeFleet.Address.Network
import NodeFleet.Text.Percent
import NodeFleet.Url.Domain

/-!
The hosts of URLs.

The host of a URL of the web is an IPv6 address in brackets, an IPv4 address, or a domain. A domain
whose last label is a number has to be an IPv4 address, of one to four numbers that may also be
octal or hexadecimal; the last number fills the octets that the others leave.
-/

namespace NodeFleet.Url

/-- A host. -/
inductive Host where
  | domain (name : List Char)
  | ipv4 (ip : Ipv4)
  | ipv6 (ip : Ipv6)
  deriving DecidableEq

namespace Host

/-- The characters of a host in a URL. -/
def chars : Host → List Char
  | .domain name => name
  | .ipv4 ip => ip.chars
  | .ipv6 ip => '[' :: (ip.hexChars ++ [']'])

/-- The number of digits of a base. -/
def readBase? (base value : Nat) : List Char → Option Nat
  | [] => some value
  | c :: cs =>
    match Text.hexValue? c with
    | some d => if d < base then readBase? base (base * value + d) cs else none
    | none => none

/-- A number of an IPv4 address: hexadecimal after `0x`, octal after another `0`, else decimal. -/
def readPart? (cs : List Char) : Option Nat :=
  match cs with
  | [] => none
  | '0' :: 'x' :: rest | '0' :: 'X' :: rest => readBase? 16 0 rest
  | '0' :: c :: rest => readBase? 8 0 (c :: rest)
  | cs => readBase? 10 0 cs

/-- The labels of a domain; a point at the end adds none. -/
def labels (name : List Char) : List (List Char) :=
  match (Text.splitAll '.' name).reverse with
  | [] :: rest => rest.reverse
  | all => all.reverse

/-- Whether the last label of a domain is a number. -/
def endsInNumber (name : List Char) : Bool :=
  match (labels name).getLast? with
  | none => false
  | some last =>
    (!last.isEmpty && last.all fun c => (Text.digit? c).isSome) || (readPart? last).isSome

/-- The numbers before the last one, as octets of an address. -/
def joinOctets (value : Nat) : List Nat → Option Nat
  | [] => some value
  | n :: ns => if n ≤ 255 then joinOctets (256 * value + n) ns else none

/-- The IPv4 address of a domain. -/
def readIpv4? (name : List Char) : Option Ipv4 := do
  let numbers ← (labels name).mapM readPart?
  let last ← numbers.getLast?
  let front := numbers.dropLast
  let room := Nat.pow 256 (4 - front.length)
  if front.length ≤ 3 ∧ last < room then
    some (Ipv4.ofNat ((← joinOctets 0 front) * room + last))
  else none

/-- The address between brackets. -/
def readBracketed? (cs : List Char) : Option Ipv6 :=
  match cs with
  | '[' :: rest => if rest.getLast? = some ']' then Ipv6.read? rest.dropLast else none
  | _ => none

/-- Reads the host of a URL of the web. -/
def read? (cs : List Char) : Option Host :=
  if cs.head? = some '[' then (readBracketed? cs).map .ipv6
  else do
    let decoded ← Text.decode? (Text.percentDecode (Text.bytesOf (String.ofList cs)))
    let name ← domainToAscii? decoded.toList
    if name.isEmpty then none
    else if endsInNumber name then (readIpv4? name).map .ipv4
    else some (.domain name)

/-- The characters that the host of any other URL may not have. -/
def isForbiddenOpaque (c : Char) : Bool :=
  "\x00\t\n\r #/:<>?@[\\]^|".toList.contains c

/-- Whether a text is the host of a URL that is none of the web's. -/
def isOpaque (cs : List Char) : Bool :=
  if cs.head? = some '[' then (readBracketed? cs).isSome else !cs.any isForbiddenOpaque

end Host

end NodeFleet.Url
