import NodeFleet.Error
import NodeFleet.Fleet.Tables
import NodeFleet.Install.Shell

/-!
The state of the panel and the programs that act on it.

A `Transaction` works on the tables and takes effect as a whole or, when it fails, not at all. An
`Action` works on the panel: it reads the tables, runs transactions and calls the remote shell, and
what it has done before a failure stays done. While the database is closed, neither reads nor
transactions are possible.
-/

namespace NodeFleet

/-- The tables, whether they can be reached, and the remote shell. -/
structure Panel where
  fleet : Fleet
  isOpen : Bool
  shell : Shell

/-- A program on the tables that takes effect only if it succeeds. -/
abbrev Transaction := StateT Fleet (Except Error)

/-- A program on the panel whose effects stay. -/
abbrev Action := ExceptT Error (StateM Panel)

/-- The error of every access to a closed database. -/
def databaseClosed : Error := .ofDatabase .closed

/-- The greatest number of values that a statement may be given. -/
def maxValues : Nat := 32766

/-- The error of a statement that is given more values. -/
def tooManyValues : Error := .ofDatabase (.query ⟨1, "too many SQL variables"⟩)

/-- Refuses a statement with too many values. -/
def checkValues (count : Nat) : Except Error Unit :=
  if maxValues < count then .error tooManyValues else .ok ()

/-- The greatest number of bytes in a row. -/
def maxRow : Nat := 1000000000

/-- The error of a longer row. -/
def rowTooBig : Error := .ofDatabase (.execution ⟨18, "string or blob too big"⟩)

namespace Action

/-- Reads from the tables. -/
def read {α : Type} (query : Fleet → Except Error α) : Action α := fun panel =>
  if panel.isOpen then (query panel.fleet, panel) else (.error databaseClosed, panel)

/-- Runs a transaction. -/
def transact {α : Type} (t : Transaction α) : Action α := fun panel =>
  if panel.isOpen then
    match t.run panel.fleet with
    | .ok (x, fleet) => (.ok x, { panel with fleet := fleet })
    | .error e => (.error e, panel)
  else (.error databaseClosed, panel)

/-- Checks that need no tables. -/
def check {α : Type} (result : Except Error α) : Action α := fun panel => (result, panel)

/-- Works on the remote shell. -/
def withShell {α : Type} (f : Shell → α × Shell) : Action α := fun panel =>
  (.ok (f panel.shell).1, { panel with shell := (f panel.shell).2 })

end Action

namespace Transaction

/-- Reads from the tables. -/
def read {α : Type} (query : Fleet → Except Error α) : Transaction α := fun fleet =>
  (query fleet).map fun x => (x, fleet)

/-- Checks that need no tables. -/
def check {α : Type} (result : Except Error α) : Transaction α := fun fleet =>
  result.map fun x => (x, fleet)

/-- Changes the tables. -/
def change (f : Fleet → Fleet) : Transaction Unit := fun fleet => .ok ((), f fleet)

end Transaction

namespace Fleet

/-- The node of a number, which has to exist. -/
def findNode (id : Int) (f : Fleet) : Except Error Node :=
  match f.node? id with
  | some n => .ok n
  | none => .error (.notFound ("Узел не найден: " ++ Text.showInt id))

/-- The group of a number, which has to exist. -/
def findGroup (id : Int) (f : Fleet) : Except Error Group :=
  match f.group? id with
  | some g => .ok g
  | none => .error (.notFound ("Группа не найдена: " ++ Text.showInt id))

end Fleet

end NodeFleet
