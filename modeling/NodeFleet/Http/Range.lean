import NodeFleet.Text.Blank
import NodeFleet.Text.Integer
import NodeFleet.Text.Split

/-!
Ranges of bytes that a request asks for.

A range names its first and its last byte, or its first byte, or how many bytes it takes from the
end: `bytes=0-3`, `bytes=4-`, `bytes=-3`. Several ranges are separated by commas and must not
overlap. `readRanges?` tells the first and the last byte of each range of a content of a given
size, and refuses ranges that lie outside of it.
-/

namespace NodeFleet.Http

/-- A range as it is written. -/
inductive ByteRange where
  | between (first last : Nat)
  | onward (first : Nat)
  | tail (count : Nat)
  deriving DecidableEq, Repr

/-- A position: a number without sign and superfluous zeros. -/
def position? (cs : List Char) : Option Nat :=
  match cs with
  | '+' :: _ => none
  | '0' :: _ :: _ => none
  | _ => (Text.readNat Text.maxNat64 cs).toOption

/-- Reads one range. -/
def byteRange? (cs : List Char) : Option ByteRange := do
  let [first, last] := Text.splitAll '-' cs | none
  if first.isEmpty then
    let count ← position? last
    if count = 0 then none else some (.tail count)
  else
    let start ← position? first
    if last.isEmpty then some (.onward start) else some (.between start (← position? last))

/-- A part between commas without the one blank that may stand in front of it. -/
def trimPart? (cs : List Char) : Option (List Char) :=
  if (cs.getLast?.any Text.isBlank) || 1 < cs.countP Text.isBlank then none
  else some (Text.trimChars cs)

/-- The first and the last byte of a range of a content of a given size. -/
def ByteRange.within? (size : Nat) : ByteRange → Option (Nat × Nat)
  | .between first last => some (first, min last (size - 1))
  | .onward first => some (first, size - 1)
  | .tail count => if size < count then none else some (size - count, size - 1)

/-- Whether no two ranges of a list have a byte in common. -/
def areApart : List (Nat × Nat) → Bool
  | [] => true
  | (a, b) :: rest => (rest.all fun (c, d) => b < c || d < a) && areApart rest

/-- The first and the last byte of each range of a header field. -/
def readRanges? (size : Nat) (field : String) : Option (List (Nat × Nat)) := do
  let rest ← Text.afterStart? "bytes=".toList field.toList
  if rest.head?.any Text.isBlank then none
  let parts ← (Text.splitAll ',' rest).mapM trimPart?
  let ranges ← parts.mapM byteRange?
  let bounds ← ranges.mapM (·.within? size)
  if bounds.all (fun (first, last) => first ≤ last) && areApart bounds then some bounds else none

end NodeFleet.Http
