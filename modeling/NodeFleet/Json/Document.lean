import NodeFleet.Json.Value
import NodeFleet.Text.Integer
import NodeFleet.Text.Utf8

/-!
JSON text as a reader meets it.

A `Doc` is a JSON value together with every place where the text breaks a rule. The faults stay
where they are in the value, because the one that counts depends on the reader: a value that is
read is held to stricter rules than a value that is skipped, and a reader that objects to the
meaning of a value may stop before a later fault of the text. `Doc.value` reads a whole document;
`NodeFleet.Json.Decode` reads the values of types.

The text is a list of characters in which `none` stands for a byte that belongs to no character.
-/

namespace NodeFleet.Json

/-- A broken rule of JSON text. -/
inductive Fault where
  | endInList
  | endInObject
  | endInString
  | endInValue
  | expectedColon
  | expectedListEnd
  | expectedObjectEnd
  | expectedIdent
  | expectedValue
  | invalidEscape
  | invalidNumber
  | numberOutOfRange
  | invalidCodePoint
  | controlCharacter
  | keyNoString
  | loneSurrogate
  | trailingComma
  | trailingCharacters
  | escapeEnd
  | tooDeep
  deriving DecidableEq, Repr

/-- The wording of each fault. -/
def Fault.message : Fault → String
  | .endInList => "EOF while parsing a list"
  | .endInObject => "EOF while parsing an object"
  | .endInString => "EOF while parsing a string"
  | .endInValue => "EOF while parsing a value"
  | .expectedColon => "expected `:`"
  | .expectedListEnd => "expected `,` or `]`"
  | .expectedObjectEnd => "expected `,` or `\x7d`"
  | .expectedIdent => "expected ident"
  | .expectedValue => "expected value"
  | .invalidEscape => "invalid escape"
  | .invalidNumber => "invalid number"
  | .numberOutOfRange => "number out of range"
  | .invalidCodePoint => "invalid unicode code point"
  | .controlCharacter => "control character (\\u0000-\\u001F) found while parsing a string"
  | .keyNoString => "key must be a string"
  | .loneSurrogate => "lone leading surrogate in hex escape"
  | .trailingComma => "trailing comma"
  | .trailingCharacters => "trailing characters"
  | .escapeEnd => "unexpected end of hex escape"
  | .tooDeep => "recursion limit exceeded"

/-- The fault of a value that cannot be finished: for a reader of the value, for one that skips
it, and for one that wants the name of a variant. -/
structure Snag where
  read : Fault
  skipped : Fault
  named : Fault
  deriving DecidableEq, Repr

/-- A value that is cut off or that starts with no character of a value. -/
def Snag.all (f : Fault) : Snag := ⟨f, f, f⟩

/-- A value of a kind that is no name of a variant. -/
def Snag.unnamed (read skipped : Fault) : Snag := ⟨read, skipped, .expectedValue⟩

/-- What a value is found to be, before its parts are looked at. -/
inductive Found where
  | null
  | bool (value : Bool)
  | num (value : Number)
  | str (value : String)
  | list
  | map
  deriving DecidableEq, Repr

/-- How the text goes on after the last item of a list or the last entry of an object. -/
inductive Ending where
  /-- By the closing bracket. -/
  | closed
  /-- By the end of the text, before or after a comma. -/
  | cut (afterComma : Bool)
  /-- By a comma and the closing bracket. -/
  | comma
  /-- By a character that is neither comma nor bracket. -/
  | stray
  /-- By something else than a key where a key is due. -/
  | noKey (instead : Except Fault Found)
  /-- By a key that cannot be finished. -/
  | brokenKey (snag : Snag)

/-- The fault of the end of a list that is read to its end. -/
def Ending.listFault? : Ending → Option Fault
  | .closed => none
  | .cut false => some .endInList
  | .cut true => some .endInValue
  | .comma => some .trailingComma
  | _ => some .expectedListEnd

/-- The fault of the end of a list that is skipped. -/
def Ending.skippedListFault? : Ending → Option Fault
  | .closed => none
  | .cut false => some .endInList
  | .cut true => some .endInValue
  | .comma => some .expectedValue
  | _ => some .expectedListEnd

/-- The fault of the end of a list of which all items were wanted. -/
def Ending.surplusFault? : Ending → Option Fault
  | .closed => none
  | .cut false => some .endInList
  | .comma => some .trailingComma
  | _ => some .trailingCharacters

/-- The fault of the end of an object that is read. -/
def Ending.objectFault? : Ending → Option Fault
  | .closed => none
  | .cut false => some .endInObject
  | .cut true => some .endInValue
  | .comma => some .trailingComma
  | .stray => some .expectedObjectEnd
  | .noKey _ => some .keyNoString
  | .brokenKey snag => some snag.read

/-- The fault of the end of an object that is skipped. -/
def Ending.skippedObjectFault? : Ending → Option Fault
  | .closed => none
  | .cut _ => some .endInObject
  | .comma => some .keyNoString
  | .stray => some .expectedObjectEnd
  | .noKey _ => some .keyNoString
  | .brokenKey snag => some snag.skipped

/--
A JSON value with its faults. The fault of a number, a text or a key counts when it is read; a
`bad` value ends the document for readers of every kind.
-/
inductive Doc where
  | null
  | bool (value : Bool)
  | num (value : Except Fault Number)
  | str (value : Except Fault String)
  | arr (items : List Doc) (ending : Ending)
  | obj (entries : List (Except Fault String × Doc)) (ending : Ending)
  | bad (snag : Snag)

/-- What a document is found to be, unless reading that much meets a fault. -/
def Doc.found : Doc → Except Fault Found
  | .null => .ok .null
  | .bool b => .ok (.bool b)
  | .num n => n.map .num
  | .str s => s.map .str
  | .arr .. => .ok .list
  | .obj .. => .ok .map
  | .bad snag => .error snag.read

mutual

/-- A value as a document without faults. -/
def Value.toDoc : Value → Doc
  | .null => .null
  | .bool b => .bool b
  | .num n => .num (.ok n)
  | .str s => .str (.ok s)
  | .arr items => .arr (itemDocs items) .closed
  | .obj entries => .obj (entryDocs entries) .closed

/-- Values as documents. -/
def itemDocs : List Value → List Doc
  | [] => []
  | v :: vs => v.toDoc :: itemDocs vs

/-- Entries as keys and documents. -/
def entryDocs : List (String × Value) → List (Except Fault String × Doc)
  | [] => []
  | (k, v) :: es => (.ok k, v.toDoc) :: entryDocs es

end

/-! ### Numbers -/

/-- The decimal digits at the head of a text, and the text after them. -/
def spanDigits : List (Option Char) → List Nat × List (Option Char)
  | some c :: rest =>
    match Text.digit? c with
    | some d => (d :: (spanDigits rest).1, (spanDigits rest).2)
    | none => ([], some c :: rest)
  | rest => ([], rest)

/-- Appends digits to a number as long as it stays within `limit`; the second part holds the
digits left over. -/
def appendDigits (limit : Nat) (n : Nat) : List Nat → Nat × List Nat
  | [] => (n, [])
  | d :: ds => if 10 * n + d ≤ limit then appendDigits limit (10 * n + d) ds else (n, d :: ds)

/-- A power of ten, rounded to the nearest floating-point number. -/
def powerOfTen (k : Nat) : Float := Float.ofScientific 1 false k

/-- The largest power of ten among the floating-point numbers. -/
def maxPower : Nat := 308

/-- Divides by a power of ten, in steps that a floating-point number can hold. -/
def scaleDown (f : Float) (k : Nat) : Float :=
  if k ≤ maxPower then f / powerOfTen k
  else if f == 0 then f
  else scaleDown (f / powerOfTen maxPower) (k - maxPower)
termination_by k
decreasing_by simp only [maxPower] at *; omega

/-- Multiplies by a power of ten; there is no value beyond the largest floating-point number. -/
def scaleUp? (f : Float) (k : Nat) : Option Float :=
  if k ≤ maxPower then
    let g := f * powerOfTen k
    if g.isInf then none else some g
  else if f == 0 then some f
  else none

/-- The floating-point number of a significand and a power of ten. -/
def floatOfParts (negative : Bool) (significand : Nat) (exponent : Int) : Except Fault Number :=
  let f := (UInt64.ofNat significand).toFloat
  let scaled := match exponent with
    | .ofNat k => scaleUp? f k
    | .negSucc k => some (scaleDown f (k + 1))
  match scaled with
  | some g => .ok (.float (if negative then -g else g).toBits)
  | none => .error .numberOutOfRange

/-- The number of an integer significand without a fraction or an exponent. -/
def integerOfParts (negative : Bool) (significand : Nat) : Number :=
  if !negative then .int significand
  else if 0 < significand && significand ≤ Text.maxInt64 + 1 then .int (-significand)
  else .float (-(UInt64.ofNat significand).toFloat).toBits

/-- A value scanned from a text, with the text after it; or the fault that ends the document. -/
abbrev Scan (α : Type) := Except Snag (Except Fault α × List (Option Char))

/-- The exponent of a number, after its `e`. -/
def scanExponent (negative : Bool) (significand : Nat) (start : Int)
    (cs : List (Option Char)) : Scan Number :=
  let (below, digits) := match cs with
    | some '-' :: rest => (true, rest)
    | some '+' :: rest => (false, rest)
    | rest => (false, rest)
  match spanDigits digits with
  | ([], []) => .error (.unnamed .endInValue .invalidNumber)
  | ([], _) => .error (.unnamed .invalidNumber .invalidNumber)
  | (ds, rest) =>
    match appendDigits Text.maxInt32 0 ds with
    | (e, []) =>
      .ok (floatOfParts negative significand (if below then start - e else start + e), rest)
    | _ =>
      if significand ≠ 0 && !below then .ok (.error .numberOutOfRange, rest)
      else .ok (floatOfParts negative 0 0, rest)

/-- The rest of a number after its integer digits, of which `dropped` did not fit. -/
def scanFraction (negative : Bool) (significand dropped : Nat) (cs : List (Option Char)) :
    Scan Number :=
  match cs with
  | some '.' :: rest =>
    match spanDigits rest with
    | ([], []) => .error (.unnamed .endInValue .invalidNumber)
    | ([], _) => .error (.unnamed .invalidNumber .invalidNumber)
    | (ds, rest) =>
      let (significand, left) := appendDigits Text.maxNat64 significand ds
      let exponent : Int := dropped - (ds.length - left.length : Nat)
      match rest with
      | some 'e' :: rest | some 'E' :: rest => scanExponent negative significand exponent rest
      | rest => .ok (floatOfParts negative significand exponent, rest)
  | some 'e' :: rest | some 'E' :: rest => scanExponent negative significand dropped rest
  | rest =>
    if dropped = 0 then .ok (.ok (integerOfParts negative significand), rest)
    else .ok (floatOfParts negative significand dropped, rest)

/-- A number, after its minus sign if it has one. -/
def scanNumber (negative : Bool) (cs : List (Option Char)) : Scan Number :=
  match spanDigits cs with
  | ([], []) => .error (.unnamed .endInValue .invalidNumber)
  | ([], _) => .error (.unnamed .invalidNumber .invalidNumber)
  | (0 :: _ :: _, _) => .error (.unnamed .invalidNumber .invalidNumber)
  | (ds, rest) =>
    let (significand, left) := appendDigits Text.maxNat64 0 ds
    scanFraction negative significand left.length rest

/-! ### Texts -/

/-- A text under way: its characters in reverse, its first fault for a reader, and a leading
surrogate that waits for its partner. -/
structure Draft where
  reversed : List Char
  fault : Option Fault
  surrogate : Option Nat

/-- Notes a fault, unless there is an earlier one. -/
def Draft.note (d : Draft) (f : Fault) : Draft :=
  { d with fault := some (d.fault.getD f) }

/-- A surrogate that waits for its partner in vain. -/
def Draft.settle (d : Draft) : Draft :=
  match d.surrogate with
  | some _ => { d.note .escapeEnd with surrogate := none }
  | none => d

/-- A character that is not escaped, or is escaped by a letter. -/
def Draft.push (d : Draft) (c : Char) : Draft :=
  { d.settle with reversed := c :: d.reversed }

/-- A code unit of an escape with four hexadecimal digits. -/
def Draft.pushUnit (d : Draft) (n : Nat) : Draft :=
  match d.surrogate with
  | some high =>
    if 0xDC00 ≤ n && n ≤ 0xDFFF then
      { d with
        reversed := Char.ofNat (0x10000 + 0x400 * (high - 0xD800) + (n - 0xDC00)) :: d.reversed
        surrogate := none }
    else { d.note .loneSurrogate with surrogate := none }
  | none =>
    if 0xDC00 ≤ n && n ≤ 0xDFFF then d.note .loneSurrogate
    else if 0xD800 ≤ n && n ≤ 0xDBFF then { d with surrogate := some n }
    else { d with reversed := Char.ofNat n :: d.reversed }

/-- The snag of a text that breaks off with `f`. -/
def Draft.broken (d : Draft) (f : Fault) : Snag :=
  ⟨d.fault.getD f, f, d.fault.getD f⟩

/-- The text of a draft; a stray byte counts once the text is complete. -/
def Draft.finish (d : Draft) (stray : Bool) : Except Fault String :=
  match d.settle.fault with
  | some f => .error f
  | none => if stray then .error .invalidCodePoint else .ok (String.ofList d.reversed.reverse)

/-- The character of an escape with one letter. -/
def escaped? : Char → Option Char
  | '"' => some '"'
  | '\\' => some '\\'
  | '/' => some '/'
  | 'b' => some '\x08'
  | 'f' => some '\x0c'
  | 'n' => some '\n'
  | 'r' => some '\r'
  | 't' => some '\t'
  | _ => none

/-- The value of a hexadecimal digit at a place of a text. -/
def hexAt? (c : Option Char) : Option Nat :=
  c.bind Text.hexValue?

/-- The number of bytes of a place of a text. -/
def unitSize : Option Char → Nat
  | some c => c.utf8Size
  | none => 1

/-- The fault of an escape without its four hexadecimal digits. -/
def hexFault (cs : List (Option Char)) : Fault :=
  if ((cs.take 4).map unitSize).foldr (· + ·) 0 < 4 then .endInString else .invalidEscape

/-- The rest of a text after its opening quote; `stray` tells whether a stray byte was met. -/
def scanText (d : Draft) (stray : Bool) : List (Option Char) → Scan String
  | [] => .error (d.broken .endInString)
  | some '"' :: rest => .ok (d.finish stray, rest)
  | [some '\\'] => .error (d.broken .endInString)
  | some '\\' :: some 'u' :: a :: b :: c :: e :: rest =>
    match hexAt? a, hexAt? b, hexAt? c, hexAt? e with
    | some w, some x, some y, some z =>
      scanText (d.pushUnit (4096 * w + 256 * x + 16 * y + z)) stray rest
    | _, _, _, _ => .error (d.broken (hexFault (a :: b :: c :: e :: rest)))
  | some '\\' :: some 'u' :: rest => .error (d.broken (hexFault rest))
  | some '\\' :: some c :: rest =>
    match escaped? c with
    | some e => scanText (d.push e) stray rest
    | none => .error (d.settle.broken .invalidEscape)
  | some '\\' :: none :: _ => .error (d.settle.broken .invalidEscape)
  | some c :: rest =>
    if c.toNat < 0x20 then .error (d.settle.broken .controlCharacter)
    else scanText (d.push c) stray rest
  | none :: rest => scanText d.settle true rest

/-- A text after its opening quote. -/
def scanString (cs : List (Option Char)) : Scan String :=
  scanText ⟨[], none, none⟩ false cs

/-! ### Values -/

/-- The characters that may stand between the parts of a document. -/
def isJsonBlank (c : Option Char) : Bool :=
  c == some ' ' || c == some '\n' || c == some '\t' || c == some '\r'

/-- A text without the blanks in front. -/
def skipBlanks (cs : List (Option Char)) : List (Option Char) :=
  cs.dropWhile isJsonBlank

/-- The rest of a word, letter by letter. -/
def scanWord : List Char → List (Option Char) → Except Fault (List (Option Char))
  | [], rest => .ok rest
  | _ :: _, [] => .error .endInValue
  | w :: ws, c :: rest => if c = some w then scanWord ws rest else .error .expectedIdent

/-- A word that stands for `doc`, after its first letter. -/
def scanIdent (doc : Doc) (word : List Char) (cs : List (Option Char)) :
    Doc × Option (List (Option Char)) :=
  match scanWord word cs with
  | .ok rest => (doc, some rest)
  | .error f => (.bad (.unnamed f f), none)

/-- A scanned number or text as a document. -/
def scanned {α : Type} (make : Except Fault α → Doc) :
    Scan α → Doc × Option (List (Option Char))
  | .ok (value, rest) => (make value, some rest)
  | .error snag => (.bad snag, none)

mutual

/-- A value and the text after it; no text after a value that cannot be finished. -/
def scanValue : Nat → List (Option Char) → Doc × Option (List (Option Char))
  | 0, _ => (.bad (.all .tooDeep), none)
  | fuel + 1, cs =>
    match skipBlanks cs with
    | [] => (.bad (.all .endInValue), none)
    | some 'n' :: rest => scanIdent .null ['u', 'l', 'l'] rest
    | some 't' :: rest => scanIdent (.bool true) ['r', 'u', 'e'] rest
    | some 'f' :: rest => scanIdent (.bool false) ['a', 'l', 's', 'e'] rest
    | some '-' :: rest => scanned .num (scanNumber true rest)
    | some '"' :: rest => scanned .str (scanString rest)
    | some '[' :: rest =>
      match skipBlanks rest with
      | [] => (.arr [] (.cut false), none)
      | some ']' :: rest => (.arr [] .closed, some rest)
      | rest =>
        let (items, ending, after) := scanItems fuel rest
        (.arr items ending, after)
    | some '\x7b' :: rest =>
      match skipBlanks rest with
      | [] => (.obj [] (.cut false), none)
      | some '\x7d' :: rest => (.obj [] .closed, some rest)
      | some '"' :: rest =>
        let (entries, ending, after) := scanEntries fuel rest
        (.obj entries ending, after)
      | rest => (.obj [] (.noKey (scanValue fuel rest).1.found), none)
    | some c :: rest =>
      if (Text.digit? c).isSome then scanned .num (scanNumber false (some c :: rest))
      else (.bad (.all .expectedValue), none)
    | none :: _ => (.bad (.all .expectedValue), none)

/-- The items of a list from the first one on. -/
def scanItems : Nat → List (Option Char) → List Doc × Ending × Option (List (Option Char))
  | 0, _ => ([.bad (.all .tooDeep)], .cut false, none)
  | fuel + 1, cs =>
    match scanValue fuel cs with
    | (item, none) => ([item], .cut false, none)
    | (item, some rest) =>
      match skipBlanks rest with
      | [] => ([item], .cut false, none)
      | some ']' :: rest => ([item], .closed, some rest)
      | some ',' :: rest =>
        match skipBlanks rest with
        | [] => ([item], .cut true, none)
        | some ']' :: _ => ([item], .comma, none)
        | rest =>
          let (items, ending, after) := scanItems fuel rest
          (item :: items, ending, after)
      | _ => ([item], .stray, none)

/-- The entries of an object from the first one on, after the opening quote of its key. -/
def scanEntries : Nat → List (Option Char) →
    List (Except Fault String × Doc) × Ending × Option (List (Option Char))
  | 0, _ => ([], .brokenKey (.all .tooDeep), none)
  | fuel + 1, cs =>
    match scanString cs with
    | .error snag => ([], .brokenKey snag, none)
    | .ok (key, rest) =>
      match skipBlanks rest with
      | [] => ([(key, .bad (.all .endInObject))], .cut false, none)
      | some ':' :: rest =>
        match scanValue fuel rest with
        | (item, none) => ([(key, item)], .cut false, none)
        | (item, some rest) =>
          match skipBlanks rest with
          | [] => ([(key, item)], .cut false, none)
          | some '\x7d' :: rest => ([(key, item)], .closed, some rest)
          | some ',' :: rest =>
            match skipBlanks rest with
            | [] => ([(key, item)], .cut true, none)
            | some '\x7d' :: _ => ([(key, item)], .comma, none)
            | some '"' :: rest =>
              let (entries, ending, after) := scanEntries fuel rest
              ((key, item) :: entries, ending, after)
            | rest => ([(key, item)], .noKey (scanValue fuel rest).1.found, none)
          | _ => ([(key, item)], .stray, none)
      | _ => ([(key, .bad (.all .expectedColon))], .cut false, none)

end

/-- A text read as one document: the value, and whether anything but blanks follows it. Two steps
for each character are enough, since a value and an item each take at least one. -/
def Doc.scan (cs : List (Option Char)) : Doc × Bool :=
  match scanValue (2 * cs.length + 2) cs with
  | (doc, some rest) => (doc, !(skipBlanks rest).isEmpty)
  | (doc, none) => (doc, false)

/-- The document of a text. -/
def Doc.ofText (s : String) : Doc × Bool :=
  Doc.scan (s.toList.map some)

/-- The document of bytes. -/
def Doc.ofBytes (bytes : List UInt8) : Doc × Bool :=
  Doc.scan (Text.units bytes)

/-! ### Whole values -/

/-- The number of lists and objects that may stand one inside another. -/
def maxDepth : Nat := 127

mutual

/-- The value of a document that is read whole; `depth` more levels of nesting are allowed. -/
def Doc.read (depth : Nat) : Doc → Except Fault Value
  | .null => .ok .null
  | .bool b => .ok (.bool b)
  | .num n => n.map .num
  | .str s => s.map .str
  | .bad snag => .error snag.read
  | .arr items ending =>
    match depth with
    | 0 => .error .tooDeep
    | depth + 1 => do
      let values ← readItems depth items
      match ending.listFault? with
      | some f => .error f
      | none => .ok (.arr values)
  | .obj entries ending =>
    match depth with
    | 0 => .error .tooDeep
    | depth + 1 => do
      let values ← readEntries depth entries
      match ending.objectFault? with
      | some f => .error f
      | none => .ok (Value.object values)

/-- The items of a list, up to the first fault. -/
def readItems (depth : Nat) : List Doc → Except Fault (List Value)
  | [] => .ok []
  | d :: ds => do
    let v ← d.read depth
    let vs ← readItems depth ds
    .ok (v :: vs)

/-- The entries of an object, up to the first fault. -/
def readEntries (depth : Nat) :
    List (Except Fault String × Doc) → Except Fault (List (String × Value))
  | [] => .ok []
  | (key, d) :: es => do
    let k ← key
    let v ← d.read depth
    let vs ← readEntries depth es
    .ok ((k, v) :: vs)

end

mutual

/-- The fault that a reader meets who skips a document. -/
def Doc.skip? : Doc → Option Fault
  | .bad snag => some snag.skipped
  | .arr items ending => (skipItems? items).or ending.skippedListFault?
  | .obj entries ending => (skipEntries? entries).or ending.skippedObjectFault?
  | _ => none

/-- The first fault in the items of a skipped list. -/
def skipItems? : List Doc → Option Fault
  | [] => none
  | d :: ds => d.skip?.or (skipItems? ds)

/-- The first fault in the entries of a skipped object. -/
def skipEntries? : List (Except Fault String × Doc) → Option Fault
  | [] => none
  | (_, d) :: es => d.skip?.or (skipEntries? es)

end

/-- The value of a text. -/
def Value.parse (s : String) : Except Fault Value :=
  match Doc.ofText s with
  | (doc, more) => do
    let v ← doc.read maxDepth
    if more then .error .trailingCharacters else .ok v

end NodeFleet.Json
