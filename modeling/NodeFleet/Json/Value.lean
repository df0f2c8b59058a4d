import NodeFleet.Decimal.Shortest
import NodeFleet.Text.Hex

/-!
JSON values and their compact text.

A number is an integer of 64 bits, signed or unsigned, or a floating-point number given by its
bits. The entries of an object are kept in the order of a list; `Value.object` puts them into
ascending order of their keys, the last of several equal keys winning.
-/

namespace NodeFleet.Json

/-- A number: an integer from `-2 ^ 63` to `2 ^ 64 - 1`, or a floating-point number. -/
inductive Number where
  | int (value : Int)
  | float (bits : UInt64)
  deriving DecidableEq, Repr

/-- A JSON value. -/
inductive Value where
  | null
  | bool (value : Bool)
  | num (value : Number)
  | str (value : String)
  | arr (items : List Value)
  | obj (entries : List (String × Value))
  deriving BEq, Repr

namespace Value

/-- An integer. -/
def ofInt (n : Int) : Value := .num (.int n)

/-- A natural number. -/
def ofNat (n : Nat) : Value := .num (.int n)

/-- A text, or null in its absence. -/
def ofText? : Option String → Value
  | none => .null
  | some s => .str s

/-- An integer, or null in its absence. -/
def ofInt? : Option Int → Value
  | none => .null
  | some n => ofInt n

/-- A list of texts. -/
def ofTexts (ss : List String) : Value := .arr (ss.map .str)

/-- Puts an entry in its place among entries with ascending keys, in the place of one with the
same key. -/
def insertEntry (key : String) (value : Value) : List (String × Value) → List (String × Value)
  | [] => [(key, value)]
  | (k, v) :: rest =>
    if key < k then (key, value) :: (k, v) :: rest
    else if key = k then (key, value) :: rest
    else (k, v) :: insertEntry key value rest

/-- The object of a list of entries: ascending keys, the last of several equal keys winning. -/
def object (entries : List (String × Value)) : Value :=
  .obj (entries.foldl (fun acc e => insertEntry e.1 e.2 acc) [])

/-- The value under a key. -/
def get? (v : Value) (key : String) : Option Value :=
  match v with
  | .obj entries => entries.lookup key
  | _ => none

/-- Whether an object has a key. -/
def hasKey (v : Value) (key : String) : Bool :=
  (v.get? key).isSome

end Value

/-- A character inside a quoted text. -/
def escapeChar (c : Char) : List Char :=
  if c = '"' then ['\\', '"']
  else if c = '\\' then ['\\', '\\']
  else if c = '\x08' then ['\\', 'b']
  else if c = '\t' then ['\\', 't']
  else if c = '\n' then ['\\', 'n']
  else if c = '\x0c' then ['\\', 'f']
  else if c = '\r' then ['\\', 'r']
  else if c.toNat < 0x20 then
    ['\\', 'u', '0', '0', Text.hexDigit (c.toNat / 16), Text.hexDigit (c.toNat % 16)]
  else [c]

/-- A text in quotes. -/
def quote (s : String) : List Char :=
  '"' :: (s.toList.flatMap escapeChar ++ ['"'])

/-- The text of a number. -/
def Number.text : Number → String
  | .int n => Text.showInt n
  | .float bits => Decimal.plain.text bits

mutual

/-- The characters of the compact text of a value. -/
def Value.chars : Value → List Char
  | .null => "null".toList
  | .bool true => "true".toList
  | .bool false => "false".toList
  | .num n => n.text.toList
  | .str s => quote s
  | .arr items => '[' :: (itemChars items ++ [']'])
  | .obj entries => '\x7b' :: (entryChars entries ++ ['\x7d'])

/-- The items of an array, with commas between them. -/
def itemChars : List Value → List Char
  | [] => []
  | [v] => v.chars
  | v :: w :: rest => v.chars ++ ',' :: itemChars (w :: rest)

/-- The entries of an object, with commas between them. -/
def entryChars : List (String × Value) → List Char
  | [] => []
  | [(k, v)] => quote k ++ ':' :: v.chars
  | (k, v) :: e :: rest => quote k ++ ':' :: (v.chars ++ ',' :: entryChars (e :: rest))

end

/-- The compact text of a value: no blanks, entries in the order of the object. -/
def Value.render (v : Value) : String :=
  String.ofList v.chars

end NodeFleet.Json
