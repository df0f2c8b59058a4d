import NodeFleet.Json.Document
import NodeFleet.Text.Quoted

/-!
Reading the values of types from JSON documents.

A `Decoder` takes a document to a value or to the first failure in the order of the text. A record
is read from an object or from a list of its fields in their declared order: a `Record` is built
from its fields by `field` and `<*>`, and says for each field what stands in for it when it is
missing. Documents that come from a text and documents that come from a value differ in a few
rules, so a decoder is told the `Source`.
-/

namespace NodeFleet.Json

/-- One step on the way to a part of a document. -/
inductive Step where
  | key (name : String)
  | index (i : Nat)
  deriving DecidableEq, Repr

/-- Why a document does not fit a type. -/
inductive Cause where
  | fault (fault : Fault)
  | invalidType (found : Found) (expected : String)
  | invalidValue (found : Found) (expected : String)
  | invalidLength (length : Nat) (expected : String)
  | unknownVariant (name : String) (known : List String)
  | unknownField (name : String) (known : List String)
  | missingField (name : String)
  | duplicateField (name : String)
  deriving DecidableEq, Repr

/-- What was found, in words. -/
def Found.message : Found → String
  | .null => "null"
  | .bool true => "boolean `true`"
  | .bool false => "boolean `false`"
  | .num (.int n) => "integer `" ++ Text.showInt n ++ "`"
  | .num (.float bits) => "floating point `" ++ Decimal.plain.text bits ++ "`"
  | .str s => "string " ++ Text.quoted s
  | .list => "sequence"
  | .map => "map"

/-- The names that would have been accepted, in words. -/
def oneOf : List String → String
  | [] => "there are no variants"
  | [a] => "expected `" ++ a ++ "`"
  | [a, b] => "expected `" ++ a ++ "` or `" ++ b ++ "`"
  | names => "expected one of " ++ ", ".intercalate (names.map fun n => "`" ++ n ++ "`")

/-- The wording of each cause. -/
def Cause.message : Cause → String
  | .fault f => f.message
  | .invalidType found expected =>
    "invalid type: " ++ found.message ++ ", expected " ++ expected
  | .invalidValue found expected =>
    "invalid value: " ++ found.message ++ ", expected " ++ expected
  | .invalidLength n expected =>
    "invalid length " ++ Text.showNat n ++ ", expected " ++ expected
  | .unknownVariant name known => "unknown variant `" ++ name ++ "`, " ++ oneOf known
  | .unknownField name known => "unknown field `" ++ name ++ "`, " ++ oneOf known
  | .missingField name => "missing field `" ++ name ++ "`"
  | .duplicateField name => "duplicate field `" ++ name ++ "`"

/-- A cause and the part of the document that it concerns. -/
structure Failure where
  place : List Step
  cause : Cause
  deriving DecidableEq, Repr

/-- A failure in the whole document. -/
def Cause.here (cause : Cause) : Failure := ⟨[], cause⟩

/-- A failure in a part, told of the whole. -/
def Failure.under (step : Step) (f : Failure) : Failure := { f with place := step :: f.place }

/-- The wording of a failure, without its place. -/
def Failure.message (f : Failure) : String := f.cause.message

/-- Further steps as text: keys after points, indices in brackets. -/
def moreSteps : List Step → String
  | [] => ""
  | .key name :: rest => "." ++ name ++ moreSteps rest
  | .index i :: rest => "[" ++ Text.showNat i ++ "]" ++ moreSteps rest

/-- A place as text. -/
def placeText : List Step → String
  | .key name :: rest => name ++ moreSteps rest
  | steps => moreSteps steps

/-- The wording of a failure after its place; the whole document needs none. -/
def Failure.placedMessage (f : Failure) : String :=
  match f.place with
  | [] => f.message
  | place => placeText place ++ ": " ++ f.message

/-- Where a document comes from. -/
inductive Source where
  | text
  | value
  deriving DecidableEq, Repr

/-- Reads a value of a type from a document. -/
abbrev Decoder (α : Type) := Source → Doc → Except Failure α

/-- The failure of a document of the wrong kind. -/
def mismatch {α : Type} (expected : String) (d : Doc) : Except Failure α :=
  match d.found with
  | .ok found => .error (Cause.invalidType found expected).here
  | .error f => .error (Cause.fault f).here

/-- A text. -/
def text : Decoder String
  | _, .str (.ok s) => .ok s
  | _, d => mismatch "a string" d

/-- A truth value. -/
def bool : Decoder Bool
  | _, .bool b => .ok b
  | _, d => mismatch "a boolean" d

/-- An integer between two bounds; `expected` names the range. -/
def integer (low high : Int) (expected : String) : Decoder Int
  | _, .num (.ok (.int n)) =>
    if low ≤ n ∧ n ≤ high then .ok n
    else .error (Cause.invalidValue (.num (.int n)) expected).here
  | _, d => mismatch expected d

/-- A signed integer of 64 bits. -/
def int64 : Decoder Int := integer (-9223372036854775808) 9223372036854775807 "i64"

/-- A signed integer of 32 bits. -/
def int32 : Decoder Int := integer (-2147483648) 2147483647 "i32"

/-- An unsigned integer of 64 bits. -/
def size : Decoder Int := integer 0 18446744073709551615 "usize"

/-- A value, or null. -/
def nullable {α : Type} (d : Decoder α) : Decoder (Option α)
  | _, .null => .ok none
  | source, doc => (d source doc).map some

/-- The items of a list from position `i` on. -/
def decodeItems {α : Type} (d : Decoder α) (source : Source) (i : Nat) :
    List Doc → Except Failure (List α)
  | [] => .ok []
  | doc :: docs =>
    match d source doc with
    | .error e => .error (e.under (.index i))
    | .ok x => (decodeItems d source (i + 1) docs).map (x :: ·)

/-- A list. -/
def list {α : Type} (d : Decoder α) : Decoder (List α)
  | source, .arr items ending =>
    match decodeItems d source 0 items with
    | .error e => .error e
    | .ok xs =>
      match ending.listFault? with
      | some f => .error (Cause.fault f).here
      | none => .ok xs
  | _, doc => mismatch "a sequence" doc

/-- Any value. -/
def anything : Decoder Value := fun _ d =>
  (d.read maxDepth).mapError fun f => (Cause.fault f).here

/-- The value of a name among the known ones. -/
def variant {α : Type} (known : List (String × α)) (name : String) : Except Failure α :=
  match known.lookup name with
  | some x => .ok x
  | none => .error (Cause.unknownVariant name (known.map (·.1))).here

/-- The payload of a variant without one. -/
def unitPayload : Doc → Except Failure Unit
  | .null => .ok ()
  | d => mismatch "unit" d

/--
One of several names. A name stands as a text or as the only key of an object whose value is null;
a text source looks at the first character only before it objects.
-/
def choice {α : Type} (known : List (String × α)) : Decoder α
  | _, .str (.ok name) => variant known name
  | _, .str (.error f) => .error (Cause.fault f).here
  | .value, .obj [(.ok name, payload)] _ => do
    let x ← variant known name
    unitPayload payload
    .ok x
  | .value, .obj _ _ => .error (Cause.invalidValue .map "map with a single key").here
  | .value, d => mismatch "string or map" d
  | .text, .obj ((key, payload) :: more) ending => do
    let name ← key.mapError fun f => (Cause.fault f).here
    let x ← variant known name
    (unitPayload payload).mapError (Failure.under (.key name))
    match more, ending with
    | [], .closed => .ok x
    | [], .cut false => .error (Cause.fault .endInObject).here
    | _, _ => .error (Cause.fault .expectedValue).here
  | .text, .obj [] ending =>
    match ending with
    | .cut _ => .error (Cause.fault .endInValue).here
    | .brokenKey snag => .error (Cause.fault snag.read).here
    | .noKey (.ok found) => .error (Cause.invalidType found "variant identifier").here
    | .noKey (.error f) => .error (Cause.fault f).here
    | _ => .error (Cause.fault .expectedValue).here
  | .text, .bad snag => .error (Cause.fault snag.named).here
  | .text, _ => .error (Cause.fault .expectedValue).here

/-! ### Records -/

/-- The fields of a record that lie ahead in a list, and their position. -/
structure Items where
  ahead : List Doc
  ending : Ending
  position : Nat

/--
How a record is read: the names of its fields in declared order, the failure of a document as the
value of a field, and the record from the documents of an object's fields or from a list.
`tooShort` is the cause of a list that ends before a given position.
-/
structure Record (α : Type) where
  names : List String
  check : Source → String → Doc → Option Failure
  ofFields : Source → (String → Option Doc) → Except Failure α
  ofItems : Source → (tooShort : Nat → Cause) → Items → Except Failure (α × Items)

namespace Record

/-- A record without fields. -/
protected def pure {α : Type} (x : α) : Record α where
  names := []
  check _ _ _ := none
  ofFields _ _ := .ok x
  ofItems _ _ items := .ok (x, items)

/--
A record of one field. `missing` stands in for a field that an object lacks, `short` for one that
a list is too short for.
-/
def single {α : Type} (name : String) (d : Decoder α) (missing short : Option α) : Record α where
  names := [name]
  check source key doc :=
    if key = name then
      match d source doc with
      | .error e => some (e.under (.key name))
      | .ok _ => none
    else none
  ofFields source get? :=
    match get? name with
    | some doc => (d source doc).mapError (Failure.under (.key name))
    | none =>
      match missing with
      | some x => .ok x
      | none => .error (Cause.missingField name).here
  ofItems source tooShort items :=
    match items.ahead with
    | doc :: rest =>
      match d source doc with
      | .error e => .error (e.under (.index items.position))
      | .ok x => .ok (x, { items with ahead := rest, position := items.position + 1 })
    | [] =>
      match items.ending.listFault?, short with
      | some f, _ => .error (Cause.fault f).here
      | none, some x => .ok (x, { items with position := items.position + 1 })
      | none, none => .error (tooShort items.position).here

/-- A record that applies the function of one record to the value of another. -/
def apply {α β : Type} (f : Record (α → β)) (x : Record α) : Record β where
  names := f.names ++ x.names
  check source key doc := (f.check source key doc).or (x.check source key doc)
  ofFields source get? := do
    let g ← f.ofFields source get?
    let a ← x.ofFields source get?
    .ok (g a)
  ofItems source tooShort items := do
    let (g, items) ← f.ofItems source tooShort items
    let (a, items) ← x.ofItems source tooShort items
    .ok (g a, items)

instance : Applicative Record where
  pure := Record.pure
  seq f x := f.apply (x ())

/-- A field that must be there. -/
def required {α : Type} (name : String) (d : Decoder α) : Record α :=
  single name d none none

/-- A field that may be missing from an object or null. -/
def optional {α : Type} (name : String) (d : Decoder α) : Record (Option α) :=
  single name (nullable d) (some none) none

/-- A field with a value of its own where it is missing. -/
def withDefault {α : Type} (name : String) (d : Decoder α) (x : α) : Record α :=
  single name d (some x) (some x)

/-- The document under a key among the entries of an object. -/
def fieldDoc? (entries : List (Except Fault String × Doc)) (name : String) : Option Doc :=
  match entries with
  | [] => none
  | (.ok k, d) :: rest => if k = name then some d else fieldDoc? rest name
  | (.error _, _) :: rest => fieldDoc? rest name

/-- The first failure among the entries of an object, in their order; `seen` holds the fields met
before, and `strict` forbids keys that are no fields. -/
def checkEntries {α : Type} (r : Record α) (strict : Bool) (source : Source)
    (seen : List String) : List (Except Fault String × Doc) → Option Failure
  | [] => none
  | (.error f, _) :: _ => some (Cause.fault f).here
  | (.ok key, d) :: rest =>
    if key ∈ r.names then
      if key ∈ seen then some (Cause.duplicateField key).here
      else (r.check source key d).or (checkEntries r strict source (key :: seen) rest)
    else if strict then some ((Cause.unknownField key r.names).here.under (.key key))
    else
      match d.skip? with
      | some f => some ((Cause.fault f).here.under (.key key))
      | none => checkEntries r strict source seen rest

/-- The record of an object. -/
def ofObject {α : Type} (r : Record α) (strict : Bool) (source : Source)
    (entries : List (Except Fault String × Doc)) (ending : Ending) : Except Failure α :=
  match r.checkEntries strict source [] entries with
  | some e => .error e
  | none =>
    match ending.objectFault? with
    | some f => .error (Cause.fault f).here
    | none => r.ofFields source (fieldDoc? entries)

/-- What is wanted of a list of the fields of a record. -/
def wanted (title : String) (count : Nat) : String :=
  let elements := if count = 1 then " element" else " elements"
  "struct " ++ title ++ " with " ++ Text.showNat count ++ elements

/-- The record of a list. -/
def ofList {α : Type} (r : Record α) (title : String) (source : Source) (items : List Doc)
    (ending : Ending) : Except Failure α :=
  let tooShort n := Cause.invalidLength n (wanted title r.names.length)
  match r.ofItems source tooShort ⟨items, ending, 0⟩ with
  | .error e => .error e
  | .ok (x, left) =>
    match source, left.ahead with
    | .value, _ :: _ =>
      .error (Cause.invalidLength items.length "fewer elements in array").here
    | .text, _ :: _ => .error (Cause.fault .trailingCharacters).here
    | _, [] =>
      match ending.surplusFault? with
      | some f => .error (Cause.fault f).here
      | none => .ok x

/-- The decoder of a record. `title` is its name in messages; `strict` forbids unknown keys. -/
def decoder {α : Type} (r : Record α) (title : String) (strict : Bool) : Decoder α
  | source, .obj entries ending => r.ofObject strict source entries ending
  | source, .arr items ending => r.ofList title source items ending
  | _, d => mismatch ("struct " ++ title) d

end Record

/-- Reads a value of a type from a JSON value. -/
def Decoder.ofValue {α : Type} (d : Decoder α) (v : Value) : Except Failure α :=
  d .value v.toDoc

/-- Reads a value of a type from a scanned text. -/
def Decoder.ofScan {α : Type} (d : Decoder α) (scan : Doc × Bool) : Except Failure α :=
  match d .text scan.1 with
  | .error e => .error e
  | .ok x => if scan.2 then .error (Cause.fault .trailingCharacters).here else .ok x

/-- Reads a value of a type from a text. -/
def Decoder.ofText {α : Type} (d : Decoder α) (s : String) : Except Failure α :=
  d.ofScan (Doc.ofText s)

end NodeFleet.Json
