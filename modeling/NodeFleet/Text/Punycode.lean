/-!
Punycode: texts of any characters as texts of ASCII characters.

The ASCII characters come first, then, after a hyphen, numbers that tell where the others are to be
put in, in ascending order of their code points. A number is written with digits of a base of 36
whose weights depend on the numbers before it.
-/

namespace NodeFleet.Text.Punycode

/-- The digit of a value below 36. -/
def digitOf (n : Nat) : Char :=
  if n < 26 then Char.ofNat ('a'.toNat + n) else Char.ofNat ('0'.toNat + (n - 26))

/-- The value of a digit, in either case. -/
def valueOf? (c : Char) : Option Nat :=
  if 'a' ≤ c && c ≤ 'z' then some (c.toNat - 'a'.toNat)
  else if 'A' ≤ c && c ≤ 'Z' then some (c.toNat - 'A'.toNat)
  else if '0' ≤ c && c ≤ '9' then some (c.toNat - '0'.toNat + 26)
  else none

/-- The threshold of the digit at a position that counts in steps of 36. -/
def threshold (position bias : Nat) : Nat := max 1 (min 26 (position - bias))

/-- Divides a difference by 35 until it is small; `steps` grows by 36 each time. -/
def shrink (delta steps : Nat) : Nat × Nat :=
  if 455 < delta then shrink (delta / 35) (steps + 36) else (delta, steps)
termination_by delta
decreasing_by exact Nat.div_lt_self (by omega) (by omega)

/-- The bias after a difference, with `count` characters written so far. -/
def adapt (delta count : Nat) (first : Bool) : Nat :=
  let start := if first then delta / 700 else delta / 2
  let (small, steps) := shrink (start + start / count) 0
  steps + 36 * small / (small + 38)

/-- The digits of a number. -/
def digits (bias position n : Nat) : List Char :=
  let t := threshold position bias
  if n < t then [digitOf n]
  else digitOf (t + (n - t) % (36 - t)) :: digits bias (position + 36) ((n - t) / (36 - t))
termination_by n
decreasing_by
  have low : 1 ≤ threshold position bias := Nat.le_max_left _ _
  have := Nat.div_le_self (n - threshold position bias) (36 - threshold position bias)
  omega

/-- The state between two numbers: the difference so far, the bias, the number of characters
handled, and the digits written, in reverse. -/
structure Encoder where
  delta : Nat
  bias : Nat
  handled : Nat
  reversed : List Char

/-- Passes one character of the text on the way to those with the code point `n`. -/
def Encoder.pass (basics n : Nat) (e : Encoder) (c : Char) : Encoder :=
  if c.toNat < n then { e with delta := e.delta + 1 }
  else if c.toNat = n then
    { delta := 0
      bias := adapt e.delta (e.handled + 1) (e.handled == basics)
      handled := e.handled + 1
      reversed := (digits e.bias 36 e.delta).reverse ++ e.reversed }
  else e

/-- The numbers of a list in ascending order, each once. -/
def insertCode (n : Nat) : List Nat → List Nat
  | [] => [n]
  | m :: ms => if n < m then n :: m :: ms else if n = m then m :: ms else m :: insertCode n ms

/-- Writes the characters with each of the given code points; those below `next` are written. -/
def encodeCodes (cs : List Char) (basics : Nat) : List Nat → Nat → Encoder → List Char
  | [], _, e => e.reversed.reverse
  | n :: ns, next, e =>
    let ready := { e with delta := e.delta + (n - next) * (e.handled + 1) }
    let passed := cs.foldl (Encoder.pass basics n) ready
    encodeCodes cs basics ns (n + 1) { passed with delta := passed.delta + 1 }

/-- A text in Punycode. -/
def encode (cs : List Char) : List Char :=
  let basic := cs.filter (·.toNat < 0x80)
  let codes := (cs.filter (0x80 ≤ ·.toNat)).foldr (fun c ns => insertCode c.toNat ns) []
  let mark := if basic.isEmpty then [] else ['-']
  basic ++ mark ++ encodeCodes cs basic.length codes 0x80 ⟨0, 72, basic.length, []⟩

/-- Reads a number: its value added to `n`, and the rest of the text. -/
def readNumber? (bias position weight n : Nat) : List Char → Option (Nat × List Char)
  | [] => none
  | c :: cs => do
    let d ← valueOf? c
    let n := n + d * weight
    let t := threshold position bias
    if d < t then some (n, cs) else readNumber? bias (position + 36) (weight * (36 - t)) n cs

theorem length_readNumber? {bias position weight n m : Nat} {cs rest : List Char}
    (h : readNumber? bias position weight n cs = some (m, rest)) : rest.length < cs.length := by
  induction cs generalizing position weight n with
  | nil => simp [readNumber?] at h
  | cons c cs ih =>
    simp only [readNumber?, Option.bind_eq_bind, Option.bind_eq_some_iff] at h
    obtain ⟨d, -, h⟩ := h
    split at h
    · simp only [Option.some.injEq, Prod.mk.injEq] at h
      simp [← h.2]
    · exact Nat.lt_succ_of_lt (ih h)

/-- Puts characters into a text, number by number, from the place `i` and the code point `n`. -/
def insertAll? (out : List Char) (i n bias : Nat) (cs : List Char) : Option (List Char) :=
  if cs.isEmpty then some out
  else
    match _h : readNumber? bias 36 1 i cs with
    | none => none
    | some (j, rest) =>
      let count := out.length + 1
      let code := n + j / count
      if code < 0x110000 && !(0xD800 ≤ code && code < 0xE000) then
        let place := j % count
        insertAll? (out.take place ++ Char.ofNat code :: out.drop place) (place + 1) code
          (adapt (j - i) count (i == 0)) rest
      else none
termination_by cs.length
decreasing_by exact length_readNumber? _h

/-- The text of a Punycode. The last hyphen ends the ASCII characters, unless there are none. -/
def decode? (cs : List Char) : Option (List Char) :=
  let reversed := cs.reverse
  let tail := (reversed.takeWhile (· ≠ '-')).reverse
  let basic := ((reversed.dropWhile (· ≠ '-')).drop 1).reverse
  if basic.isEmpty then insertAll? [] 0 0x80 72 cs
  else if basic.all (·.toNat < 0x80) then insertAll? basic 0 0x80 72 tail
  else none

end NodeFleet.Text.Punycode
