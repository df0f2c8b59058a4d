/-!
UTF-8.

A list of bytes is cut into characters and faults. A fault is the longest run of bytes that starts
a character which the bytes after it do not finish, and at least one byte. `decodeLossy` writes one
replacement character for each fault; `decode?` accepts bytes without a fault.
-/

namespace NodeFleet.Text

/-- The UTF-8 bytes of a text. -/
def bytesOf (s : String) : List UInt8 :=
  s.toList.flatMap String.utf8EncodeChar

/-- A byte that continues a character. -/
def isContinuation (b : UInt8) : Bool :=
  0x80 ≤ b && b ≤ 0xBF

/--
What the first byte of a character of several bytes announces: the number of further bytes, the
range in which the second byte must lie, and the bits that the first byte contributes.
-/
def leadByte? (b : UInt8) : Option (Nat × UInt8 × UInt8 × Nat) :=
  if 0xC2 ≤ b && b ≤ 0xDF then some (1, 0x80, 0xBF, b.toNat - 0xC0)
  else if b == 0xE0 then some (2, 0xA0, 0xBF, 0)
  else if b == 0xED then some (2, 0x80, 0x9F, 0xD)
  else if 0xE1 ≤ b && b ≤ 0xEF then some (2, 0x80, 0xBF, b.toNat - 0xE0)
  else if b == 0xF0 then some (3, 0x90, 0xBF, 0)
  else if 0xF1 ≤ b && b ≤ 0xF3 then some (3, 0x80, 0xBF, b.toNat - 0xF0)
  else if b == 0xF4 then some (3, 0x80, 0x8F, 4)
  else none

/-- One piece of a text in UTF-8: a character, or bytes that belong to none. -/
inductive Piece where
  | char (c : Char)
  | stray (count : Nat)
  deriving DecidableEq, Repr

/--
Reads the `owed` continuation bytes of a character; `taken` counts the bytes before them. The
result is the piece and the bytes after it.
-/
def continueChar (value taken : Nat) : Nat → List UInt8 → Piece × List UInt8
  | 0, rest => (.char (Char.ofNat value), rest)
  | _ + 1, [] => (.stray taken, [])
  | owed + 1, b :: rest =>
    if isContinuation b then continueChar (64 * value + (b.toNat - 0x80)) (taken + 1) owed rest
    else (.stray taken, b :: rest)

/-- The first piece of a byte list that starts with `b`. -/
def firstPiece (b : UInt8) (rest : List UInt8) : Piece × List UInt8 :=
  if b < 0x80 then (.char (Char.ofNat b.toNat), rest)
  else
    match leadByte? b, rest with
    | some (owed, low, high, value), c :: more =>
      if low ≤ c && c ≤ high then continueChar (64 * value + (c.toNat - 0x80)) 2 (owed - 1) more
      else (.stray 1, rest)
    | _, _ => (.stray 1, rest)

theorem length_continueChar (value taken owed : Nat) (rest : List UInt8) :
    (continueChar value taken owed rest).2.length ≤ rest.length := by
  induction owed generalizing value taken rest with
  | zero => simp [continueChar]
  | succ owed ih =>
    cases rest with
    | nil => simp [continueChar]
    | cons b rest =>
      simp only [continueChar]
      split
      · exact Nat.le_trans (ih _ _ rest) (by simp)
      · simp

/-- Each piece takes at least its first byte. -/
theorem length_firstPiece (b : UInt8) (rest : List UInt8) :
    (firstPiece b rest).2.length ≤ rest.length := by
  unfold firstPiece
  split
  · simp
  · split
    · split
      · exact Nat.le_trans (length_continueChar _ _ _ _) (by simp)
      · simp
    · simp

/-- The pieces of a byte list, the last one first, in front of those in `found`. -/
def piecesOnto (found : List Piece) : List UInt8 → List Piece
  | [] => found
  | b :: rest => piecesOnto ((firstPiece b rest).1 :: found) (firstPiece b rest).2
termination_by bytes => bytes.length
decreasing_by
  have := length_firstPiece b rest
  simp only [List.length_cons]
  omega

/-- The pieces of a byte list, in order. -/
def pieces (bytes : List UInt8) : List Piece :=
  (piecesOnto [] bytes).reverse

/-- Pieces found before stand after those found in the bytes. -/
theorem piecesOnto_append (found more : List Piece) (bytes : List UInt8) :
    piecesOnto (found ++ more) bytes = piecesOnto found bytes ++ more := by
  fun_induction piecesOnto found bytes with
  | case1 found => simp [piecesOnto]
  | case2 found b rest ih => rw [piecesOnto, ← List.cons_append, ih]

@[simp] theorem pieces_nil : pieces [] = [] := by
  simp [pieces, piecesOnto]

/-- A byte list is its first piece and the pieces of the bytes after it. -/
theorem pieces_cons (b : UInt8) (rest : List UInt8) :
    pieces (b :: rest) = (firstPiece b rest).1 :: pieces (firstPiece b rest).2 := by
  have h := piecesOnto_append [] [(firstPiece b rest).1] (firstPiece b rest).2
  rw [pieces, piecesOnto, ← List.nil_append [(firstPiece b rest).1], h, List.reverse_append]
  rfl

/-- The character that stands for a fault. -/
def replacement : Char := Char.ofNat 0xFFFD

/-- The character of a piece, if it is one. -/
def Piece.char? : Piece → Option Char
  | .char c => some c
  | .stray _ => none

/-- The character that a piece shows as. -/
def Piece.charOrReplacement : Piece → Char
  | .char c => c
  | .stray _ => replacement

/-- A piece as characters, with `none` for each stray byte. -/
def Piece.units : Piece → List (Option Char)
  | .char c => [some c]
  | .stray count => List.replicate count none

/-- Bytes as text, each fault written as one replacement character. -/
def decodeLossy (bytes : List UInt8) : String :=
  String.ofList ((pieces bytes).map Piece.charOrReplacement)

/-- Bytes as text, if they are UTF-8 throughout. -/
def decode? (bytes : List UInt8) : Option String :=
  ((pieces bytes).mapM Piece.char?).map String.ofList

/-- Bytes as characters, with `none` in the place of each byte that belongs to no character. -/
def units (bytes : List UInt8) : List (Option Char) :=
  (pieces bytes).flatMap Piece.units

end NodeFleet.Text
