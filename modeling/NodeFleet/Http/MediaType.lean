import NodeFleet.Text.Split

/-!
Media types, as far as it takes to tell whether a body is JSON.

A media type is a type, a slash and a subtype, and parameters after semicolons. The subtype may end
with `+` and the name of a format that it is based on.
-/

namespace NodeFleet.Http

/-- Whether a character may stand in a token. -/
def isTokenChar (c : Char) : Bool :=
  c.isAlphanum || "!#$%&'*+-.^_`|~".toList.contains c

/-- Whether a character may stand between quotes. -/
def isQuotable (c : Char) : Bool := ' ' ≤ c && c ≤ '~' && c ≠ '"'

/-- The texts between semicolons that stand outside quotes. -/
def splitParameters (quoted : Bool) : List Char → List (List Char)
  | [] => [[]]
  | c :: cs =>
    if c = ';' ∧ !quoted then [] :: splitParameters quoted cs
    else
      match splitParameters (if c = '"' then !quoted else quoted) cs with
      | [] => [[c]]
      | piece :: more => (c :: piece) :: more

/-- Whether a text is a token, or a text in quotes, the spaces after it left out. -/
def isParameterValue (cs : List Char) : Bool :=
  match cs with
  | '"' :: rest =>
    match (rest.reverse.dropWhile (· == ' ')).reverse with
    | [] => false
    | inner =>
      inner.getLast? == some '"' && !inner.dropLast.isEmpty && inner.dropLast.all isQuotable
  | _ => !cs.isEmpty && cs.all isTokenChar

/-- Whether a text is a parameter: a name, an equals sign and a value. -/
def isParameter (cs : List Char) : Bool :=
  match Text.splitFirst? '=' (cs.dropWhile (· == ' ')) with
  | some (name, value) => !name.isEmpty && name.all isTokenChar && isParameterValue value
  | none => false

/-- The part of a subtype before its last plus sign, and the part after it. -/
def splitSuffix (subtype : List Char) : List Char × Option (List Char) :=
  let back := subtype.reverse
  let suffix := (back.takeWhile (· ≠ '+')).reverse
  match back.dropWhile (· ≠ '+') with
  | _ :: front => if front.isEmpty then (subtype, none) else (front.reverse, some suffix)
  | [] => (subtype, none)

/-- Whether a media type is the one of JSON, or of a format based on it. -/
def isJsonType (value : String) : Bool :=
  match splitParameters false (value.toList.map Char.toLower) with
  | [] => false
  | full :: parameters =>
    match Text.splitFirst? '/' full with
    | none => false
    | some (type, subtype) =>
      let (name, suffix) := splitSuffix subtype
      type == "application".toList && subtype.all isTokenChar && parameters.all isParameter
        && (name == "json".toList || suffix == some "json".toList)

end NodeFleet.Http
