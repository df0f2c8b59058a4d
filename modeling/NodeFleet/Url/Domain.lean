import NodeFleet.Text.Punycode
import NodeFleet.Text.Split
import NodeFleet.Text.Utf8
import NodeFleet.Unicode.HostMapping
import NodeFleet.Unicode.Normal
import NodeFleet.Unicode.Script

/-!
Domain names with characters beyond ASCII.

A domain is brought into its ASCII form: its characters are mapped and normalized, its labels are
checked one by one, and a label with characters beyond ASCII is written in Punycode after `xn--`. A
label that comes in Punycode has to stand for one that could have been written out.
-/

namespace NodeFleet.Url

/-- The ASCII characters that no domain may have. -/
def isForbidden (c : Char) : Bool :=
  c.toNat ≤ 0x20 || c.toNat = 0x7F || "%#/:<>?@[\\]^`\x7b|\x7d".toList.contains c

/-- The characters that a character of a domain stands for, if it may stand there. -/
def mapChar? (c : Char) : Option (List Char) :=
  match Unicode.hostStatus c with
  | .valid => some [c]
  | .ignored => some []
  | .disallowed => none
  | .mapped targets => some targets

/-- The characters of a domain, mapped and normalized. What counts as forbidden is what is left
then: a `<` that a stroke has made a character of its own may stand. -/
def mapDomain? (cs : List Char) : Option (List Char) :=
  ((cs.mapM mapChar?).map fun pieces => Unicode.normalize pieces.flatten).filter fun mapped =>
    !mapped.any isForbidden

/-- Whether a joiner may follow the characters before it and come before those after it; `before` is
in reverse. -/
def joinerFits (c : Char) (before after : List Char) : Bool :=
  match before with
  | [] => false
  | b :: _ =>
    Unicode.combiningClass b = 9
      || (c.toNat = 0x200C
        && (match before.find? (Unicode.joining · ≠ .transparent) with
          | some b => Unicode.joining b = .left || Unicode.joining b = .dual
          | none => false)
        && (match after.find? (Unicode.joining · ≠ .transparent) with
          | some a => Unicode.joining a = .right || Unicode.joining a = .dual
          | none => false))

/-- Whether the joiners of a label stand in places where they make a difference. -/
def joinersFit (before : List Char) : List Char → Bool
  | [] => true
  | c :: cs =>
    (if c.toNat = 0x200C ∨ c.toNat = 0x200D then joinerFits c before cs else true)
      && joinersFit (c :: before) cs

/-- The greatest number of characters in a label beyond ASCII. -/
def maxLabel : Nat := 1000

/-- The greatest number of characters in the Punycode of a label. -/
def maxPunycode : Nat := 2000

/-- Whether a label that is written out may stand in a domain. -/
def isLabel (cs : List Char) : Bool :=
  (match cs with
    | c :: _ => !Unicode.marks.contains c.toNat
    | [] => true)
  && joinersFit [] cs
  && (cs.all (·.toNat < 0x80) || cs.length ≤ maxLabel)

/-- The label that a Punycode stands for, if it is in the form of labels that are written out. -/
def decodeLabel? (code : List Char) : Option (List Char) :=
  if code.isEmpty || code.getLast? = some '-' || maxPunycode < code.length then none
  else do
    let label ← Text.Punycode.decode? code
    if label.all (fun c => Unicode.hostStatus c = .valid && !isForbidden c && c ≠ '.')
        && Unicode.normalize label = label && isLabel label then
      some label
    else none

/-- A label as it is checked: written out. -/
def openLabel? (cs : List Char) : Option (List Char) :=
  match Text.afterStart? "xn--".toList cs with
  | some code => if code.all (·.toNat < 0x80) then decodeLabel? code else none
  | none => if isLabel cs then some cs else none

/-- Whether a character is written from right to left. -/
def isRightToLeft (c : Char) : Bool :=
  match Unicode.direction c with
  | .rightToLeft | .arabicLetter | .arabicNumber => true
  | _ => false

/-- The directions that may stand anywhere in a label. -/
def isNeutral (d : Unicode.Direction) : Bool :=
  match d with
  | .europeanNumber | .europeanSeparator | .commonSeparator | .europeanTerminator | .otherNeutral
  | .boundaryNeutral | .nonspacingMark => true
  | _ => false

/-- The directions of a label up to its last character that is no mark of another. -/
def withoutMarks (ds : List Unicode.Direction) : List Unicode.Direction :=
  (ds.reverse.dropWhile (· = .nonspacingMark)).reverse

/-- Whether the directions in a label agree, for a domain that is written from right to left in
some part. -/
def directionsAgree (label : List Char) : Bool :=
  let ds := label.map Unicode.direction
  match ds with
  | [] => true
  | .leftToRight :: _ =>
    ds.all (fun d => d = .leftToRight || isNeutral d)
      && (match (withoutMarks ds).getLast? with
        | some d => d = .leftToRight || d = .europeanNumber
        | none => false)
  | .rightToLeft :: _ | .arabicLetter :: _ =>
    ds.all (fun d =>
        d = .rightToLeft || d = .arabicLetter || d = .arabicNumber || isNeutral d)
      && (match (withoutMarks ds).getLast? with
        | some d =>
          d = .rightToLeft || d = .arabicLetter || d = .arabicNumber || d = .europeanNumber
        | none => false)
      && !(ds.contains .arabicNumber && ds.contains .europeanNumber)
  | _ => false

/-- A label in ASCII. -/
def closeLabel (label : List Char) : List Char :=
  if label.all (·.toNat < 0x80) then label
  else "xn--".toList ++ Text.Punycode.encode label

/-- The ASCII form of a domain. -/
def domainToAscii? (cs : List Char) : Option (List Char) := do
  let mapped ← mapDomain? cs
  let labels ← (Text.splitAll '.' mapped).mapM openLabel?
  if labels.any (·.any isRightToLeft) && !labels.all directionsAgree then none
  else some (Text.joinAll ['.'] (labels.map closeLabel))

end NodeFleet.Url
