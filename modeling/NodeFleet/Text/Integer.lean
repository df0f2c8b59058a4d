/-!
Reading decimal integers of a bounded range.

An integer is an optional sign and at least one ASCII digit; leading zeros are allowed. The digits
are taken from the left, and the first fault met decides: a character that is no digit, or a digit
that carries the value out of the range.
-/

namespace NodeFleet.Text

/-- Why a text is no integer of the wanted range. -/
inductive IntegerFault where
  | empty
  | invalidDigit
  | tooLarge
  | tooSmall
  deriving DecidableEq, Repr

/-- The wording of each fault. -/
def IntegerFault.message : IntegerFault → String
  | .empty => "cannot parse integer from empty string"
  | .invalidDigit => "invalid digit found in string"
  | .tooLarge => "number too large to fit in target type"
  | .tooSmall => "number too small to fit in target type"

/-- The value of an ASCII digit. -/
def digit? (c : Char) : Option Nat :=
  if '0' ≤ c && c ≤ '9' then some (c.toNat - '0'.toNat) else none

/-- Adds digits to the value read so far; `beyond` is the fault of a value above `limit`. -/
def readDigits (limit : Nat) (beyond : IntegerFault) (value : Nat) :
    List Char → Except IntegerFault Nat
  | [] => .ok value
  | c :: cs =>
    match digit? c with
    | none => .error .invalidDigit
    | some d =>
      if 10 * value + d ≤ limit then readDigits limit beyond (10 * value + d) cs else .error beyond

/-- An unsigned integer of at most `limit`; a plus sign may stand in front. -/
def readNat (limit : Nat) : List Char → Except IntegerFault Nat
  | [] => .error .empty
  | ['+'] => .error .invalidDigit
  | '+' :: cs => readDigits limit .tooLarge 0 cs
  | cs => readDigits limit .tooLarge 0 cs

/-- A signed integer from `-(limit + 1)` to `limit`. -/
def readInt (limit : Nat) : List Char → Except IntegerFault Int
  | [] => .error .empty
  | ['+'] => .error .invalidDigit
  | ['-'] => .error .invalidDigit
  | '+' :: cs => (readDigits limit .tooLarge 0 cs).map Int.ofNat
  | '-' :: cs => (readDigits (limit + 1) .tooSmall 0 cs).map fun n => -Int.ofNat n
  | cs => (readDigits limit .tooLarge 0 cs).map Int.ofNat

/-- The largest signed integer of 32 bits. -/
def maxInt32 : Nat := 2147483647

/-- The largest signed integer of 64 bits. -/
def maxInt64 : Nat := 9223372036854775807

/-- The largest unsigned integer of 64 bits. -/
def maxNat64 : Nat := 18446744073709551615

/-- The decimal digits of a number, the first one not zero unless it is the only one. -/
def showNat (n : Nat) : String :=
  String.ofList (Nat.toDigits 10 n)

/-- The decimal digits of an integer, after a minus sign when it is negative. -/
def showInt : Int → String
  | .ofNat n => showNat n
  | .negSucc n => "-" ++ showNat (n + 1)

/-- A number in decimal, filled up with zeros on the left to at least `width` digits. -/
def padNat (width n : Nat) : String :=
  let digits := Nat.toDigits 10 n
  String.ofList (List.replicate (width - digits.length) '0' ++ digits)

end NodeFleet.Text
