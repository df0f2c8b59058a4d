import NodeFleet.Json.Decode

/-!
Closed sets of named values.

The values of such a set are written by name, in JSON and in the tables alike. A `Naming` lists the
values in the order in which messages show them.
-/

namespace NodeFleet

/-- The names of the values of a type; `title` is the name of the type in messages. -/
structure Naming (α : Type) where
  title : String
  known : List (String × α)

namespace Naming

/-- Reads a value from JSON. -/
def decoder {α : Type} (n : Naming α) : Json.Decoder α := Json.choice n.known

/-- Reads a value from a column of a table, or tells why it cannot be read. -/
def ofColumn {α : Type} (n : Naming α) (column : String) : Except String α :=
  match n.known.lookup column with
  | some x => .ok x
  | none => .error ("Type Error: unexpected value for " ++ n.title ++ " enum: " ++ column)

end Naming

end NodeFleet
