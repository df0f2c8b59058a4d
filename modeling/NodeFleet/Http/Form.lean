import NodeFleet.Text.Percent
import NodeFleet.Text.Split

/-!
Forms in the query of a request: names and values with `=` between them, separated by `&`.

A plus sign stands for a space, and percent encoding for bytes of UTF-8; bytes that belong to no
character are read as replacement characters.
-/

namespace NodeFleet.Http

/-- The text of an encoded name or value. -/
def formText (cs : List Char) : String :=
  let spaced := cs.map fun c => if c = '+' then ' ' else c
  Text.decodeLossy (Text.percentDecode (Text.bytesOf (String.ofList spaced)))

/-- A name and its value, which is empty without an equals sign. -/
def formPair (cs : List Char) : String × String :=
  match Text.splitFirst? '=' cs with
  | some (name, value) => (formText name, formText value)
  | none => (formText cs, "")

/-- The pairs of a form, in order. -/
def formPairs (query : String) : List (String × String) :=
  ((Text.splitAll '&' query.toList).filter fun cs => !cs.isEmpty).map formPair

end NodeFleet.Http
