import NodeFleet.Text.Base64
import NodeFleet.Text.Quoted
import NodeFleet.Text.Utf8
import NodeFleet.Text.Integer

/-!
Texts with encoded sections, such as certificates and keys.

A section stands between a line that begins it and the line that ends it; both name its kind. Its
contents are written in base64 over any number of lines. Everything outside of a section is ignored,
and so are sections of unknown kinds. Reading goes on after a fault.
-/

namespace NodeFleet.Tls.Pem

/-- The kinds of sections. -/
inductive Kind where
  | certificate
  | publicKey
  | rsaKey
  | privateKey
  | curveKey
  | revocations
  | request
  deriving DecidableEq, Repr

/-- The names of the kinds. -/
def Kind.names : List (String × Kind) :=
  [("CERTIFICATE", .certificate), ("PUBLIC KEY", .publicKey), ("RSA PRIVATE KEY", .rsaKey),
    ("PRIVATE KEY", .privateKey), ("EC PRIVATE KEY", .curveKey), ("X509 CRL", .revocations),
    ("CERTIFICATE REQUEST", .request)]

/-- Whether a section of a kind holds a private key. -/
def Kind.isKey : Kind → Bool
  | .rsaKey | .privateKey | .curveKey => true
  | _ => false

/-- A section. -/
structure Section where
  kind : Kind
  contents : List UInt8
  deriving DecidableEq, Repr

/-- What can be wrong with a section. -/
inductive Fault where
  /-- The text ends inside the section; `mark` is the line that would end it. -/
  | unclosed (mark : List UInt8)
  /-- The line that begins the section does not end with five hyphens. -/
  | badStart (line : List UInt8)
  | badDigit (digit : UInt8)
  | badPadding
  deriving DecidableEq, Repr

/-- The wording of each fault. -/
def Fault.message : Fault → String
  | .unclosed mark => "section end " ++ Text.quoted (Text.decodeLossy mark) ++ " missing"
  | .badStart line => "illegal section start: " ++ Text.quoted (Text.decodeLossy line)
  | .badDigit digit => "InvalidCharacter(" ++ Text.showNat digit.toNat ++ ")"
  | .badPadding => "InvalidTrailingPadding"

/-- Whether a byte ends a line. -/
def isLineEnd (b : UInt8) : Bool := b = 0x0A || b = 0x0D

/-- Whether a byte is blank at the end of a line. -/
def isTrailing (b : UInt8) : Bool := isLineEnd b || b = 0x20

/-- The lines of a text, each with the byte that ends it. -/
def lines : List UInt8 → List (List UInt8)
  | [] => []
  | b :: rest =>
    if isLineEnd b then [b] :: lines rest
    else
      match lines rest with
      | [] => [[b]]
      | line :: more => (b :: line) :: more

/-- A line without the blanks at its end. -/
def trimEnd (line : List UInt8) : List UInt8 := (line.reverse.dropWhile isTrailing).reverse

/-- The value of a digit of base64. -/
def digitValue? (b : UInt8) : Option Nat :=
  match Char.ofNat b.toNat with
  | '+' => some 62
  | '/' => some 63
  | '-' => none
  | '_' => none
  | c => Text.Base64.value? c

/-- The bytes written in base64; blanks are ignored, and the padding may be left out. -/
def decode (body : List UInt8) : Except Fault (List UInt8) :=
  let digits := body.filter fun b => !(isTrailing b || b = 0x09)
  match digits.find? fun b => b ≠ 0x3D && (digitValue? b).isNone with
  | some b => .error (.badDigit b)
  | none =>
    let values := digits.takeWhile (· ≠ 0x3D)
    let padding := digits.drop values.length
    if !padding.all (· = 0x3D) || 2 < padding.length then .error .badPadding
    else
      match Text.Base64.decodeValues (values.filterMap digitValue?) with
      | some bytes => .ok bytes
      | none => .error .badPadding

/-- The words that begin and end a section. -/
def beginWords : List UInt8 := Text.bytesOf "-----BEGIN "
def endWords : List UInt8 := Text.bytesOf "-----END "
def hyphens : List UInt8 := Text.bytesOf "-----"

/-- The name in a line that begins a section, which has five hyphens after it. -/
def startName? (line : List UInt8) : Option (List UInt8) :=
  let trailer := (line.reverse.filter fun b => !isTrailing b).takeWhile (· = 0x2D)
  if trailer.length = 5 then
    let before := (line.reverse.dropWhile fun b => isTrailing b || b = 0x2D).reverse
    let blanks := (line.drop before.length).takeWhile isTrailing
    some ((before ++ blanks).drop beginWords.length)
  else none

/-- The section that is open, by its name, and the base64 read so far. -/
structure State where
  current : Option (List UInt8)
  body : List UInt8

/-- No section is open. -/
def State.outside : State := ⟨none, []⟩

/-- The line that ends a section. -/
def endMark (name : List UInt8) : List UInt8 := endWords ++ name ++ hyphens

/-- The kind of a section, by its name. -/
def kind? (name : List UInt8) : Option Kind := Kind.names.lookup (Text.decodeLossy name)

/-- A line inside or outside of a section that neither begins nor ends one. -/
def State.extend (s : State) (line : List UInt8) : State :=
  if s.current.isSome then { s with body := s.body ++ trimEnd line } else s

/-- Reads a line: what it completes, and the state after it. -/
def State.step (s : State) (line : List UInt8) : Option (Except Fault Section) × State :=
  if beginWords.isPrefixOf line then
    match startName? line with
    | some name => (none, { s with current := some name })
    | none => (some (.error (.badStart line)), outside)
  else
    match s.current with
    | some name =>
      if (endMark name).isPrefixOf line then
        match decode s.body with
        | .error fault => (some (.error fault), outside)
        | .ok contents => ((kind? name).map fun kind => .ok ⟨kind, contents⟩, outside)
      else (none, s.extend line)
    | none => (none, s)

/-- The sections of the lines that follow a state. -/
def readLines (s : State) : List (List UInt8) → List (Except Fault Section)
  | [] =>
    match s.current with
    | some name => [.error (.unclosed (endMark name))]
    | none => []
  | line :: rest =>
    let (found, s) := s.step line
    found.toList ++ readLines s rest

/-- The sections of a text, with the faults in their places. -/
def read (text : List UInt8) : List (Except Fault Section) := readLines .outside (lines text)

end NodeFleet.Tls.Pem
