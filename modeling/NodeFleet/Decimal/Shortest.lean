import NodeFleet.Text.Integer

/-!
The shortest decimal text of a binary floating-point number.

A number is given by its 64 bits. Around it lies the interval of real numbers that round to it.
For one digit, two digits and so on, the two neighbours of the number on that decimal grid are
tried; the first grid with a neighbour inside the interval gives the digits, and of two neighbours
the nearer one is taken.
-/

namespace NodeFleet.Decimal

/-- A finite number apart from its sign: `significand * 2 ^ exponent`. -/
structure Magnitude where
  significand : Nat
  exponent : Int
  /-- Whether the gap to the next number below is half the gap to the next one above. -/
  atBoundary : Bool
  deriving DecidableEq, Repr

/-- The sign bit of a number. -/
def isNegative (bits : UInt64) : Bool :=
  bits >>> 63 == 1

/-- The magnitude that the bits of a finite number stand for. -/
def magnitude (bits : UInt64) : Magnitude :=
  let field := ((bits >>> 52) &&& 0x7FF).toNat
  let fraction := (bits &&& 0xFFFFFFFFFFFFF).toNat
  if field == 0 then ⟨fraction, -1074, false⟩
  else ⟨fraction + Nat.pow 2 52, (field : Int) - 1075, fraction == 0 && field > 1⟩

/-- Decimal digits with the power of ten of the last one: `digits * 10 ^ exponent`. -/
structure Digits where
  digits : Nat
  exponent : Int
  deriving DecidableEq, Repr

/-- A number of tens as numerator and denominator. -/
def tens (k : Int) : Nat × Nat :=
  if k ≥ 0 then (Nat.pow 10 k.toNat, 1) else (1, Nat.pow 10 (-k).toNat)

/-- The largest power of ten that does not exceed `num / den`, for positive numbers. -/
def floorLog10 (num den : Nat) : Int :=
  let guess : Int := (Nat.toDigits 10 num).length - (Nat.toDigits 10 den).length
  let (p, q) := tens guess
  if p * den ≤ num * q then guess else guess - 1

/-- The candidate with the given count of digits, if one lies in the interval of the number. The
interval is `low / den` to `high / den` around `mid / den`, with its ends when `closed` is true. -/
def candidate? (low mid high den : Nat) (closed : Bool) (count : Nat) : Option Digits :=
  let k := floorLog10 mid den - (count : Int) + 1
  let (p, q) := tens k
  let below := mid * q / (den * p)
  let inside (c : Nat) : Bool :=
    let x := c * p * den
    if closed then low * q ≤ x && x ≤ high * q else low * q < x && x < high * q
  let nearerAbove := 2 * (mid * q) > (2 * below + 1) * (den * p)
  match inside below, inside (below + 1) with
  | true, true => some ⟨if nearerAbove then below + 1 else below, k⟩
  | true, false => some ⟨below, k⟩
  | false, true => some ⟨below + 1, k⟩
  | false, false => none

/-- Digits without trailing zeros. -/
def Digits.stripped : Nat → Digits → Digits
  | 0, d => d
  | n + 1, d =>
    if d.digits != 0 && d.digits % 10 == 0 then stripped n ⟨d.digits / 10, d.exponent + 1⟩ else d

/-- The shortest digits that read back as the number. -/
def shortest (m : Magnitude) : Digits :=
  let scale := m.exponent - 2
  let (up, down) : Nat × Nat :=
    if scale ≥ 0 then (Nat.pow 2 scale.toNat, 1) else (1, Nat.pow 2 (-scale).toNat)
  let mid := 4 * m.significand * up
  let low := (4 * m.significand - (if m.atBoundary then 1 else 2)) * up
  let high := (4 * m.significand + 2) * up
  let closed := m.significand % 2 == 0
  let found := ((List.range 17).map (· + 1)).findSome? (candidate? low mid high down closed)
  (found.getD ⟨mid / down, 0⟩).stripped 20

/--
How a number is written: positionally while the power of ten of its first digit is at least
`least` and at most `most`, else with an exponent of at least `exponentWidth` digits and its sign.
-/
structure Format where
  least : Int
  most : Int
  exponentWidth : Nat

/-- Numbers from `0.00001` up to sixteen digits before the point are written positionally, with at
least one digit after the point; an exponent has two digits. -/
def plain : Format := ⟨-5, 15, 2⟩

/-- The text of a magnitude. -/
def Format.magnitudeText (f : Format) (m : Magnitude) : String :=
  if m.significand == 0 then "0.0"
  else
    let d := shortest m
    let ds := Nat.toDigits 10 d.digits
    let first : Int := d.exponent + (ds.length : Int) - 1
    if f.least ≤ first && first ≤ f.most then
      if d.exponent ≥ 0 then
        String.ofList (ds ++ List.replicate d.exponent.toNat '0') ++ ".0"
      else if first ≥ 0 then
        String.ofList (ds.take (first.toNat + 1)) ++ "." ++
          String.ofList (ds.drop (first.toNat + 1))
      else
        "0." ++ String.ofList (List.replicate (-first - 1).toNat '0' ++ ds)
    else
      let sign := if first < 0 then "-" else "+"
      let tail := if ds.length ≤ 1 then "" else "." ++ String.ofList (ds.drop 1)
      String.ofList (ds.take 1) ++ tail ++ "e" ++ sign ++ Text.padNat f.exponentWidth first.natAbs

/-- The text of a finite number. -/
def Format.text (f : Format) (bits : UInt64) : String :=
  (if isNegative bits then "-" else "") ++ f.magnitudeText (magnitude bits)

end NodeFleet.Decimal
