import NodeFleet.Schema.Table

/-!
The migrations of the database.

A migration creates tables, and its reversal drops them. They are applied in one fixed order and
reversed in the opposite one, so the applied migrations are always the first ones of the list, and a
database is known by their number.
-/

namespace NodeFleet.Schema

/-- A step in the growth of the database. -/
structure Migration where
  name : String
  /-- The tables that it creates. -/
  tables : List Table
  deriving DecidableEq, Repr

/-- All migrations, in the order of their application. -/
def migrations : List Migration := [
  ⟨"m001_create_nodes", [nodes]⟩,
  ⟨"m002_create_node_tokens", [nodeTokens]⟩,
  ⟨"m003_create_node_groups", [nodeGroups, nodeGroupMembers]⟩,
  ⟨"m004_create_node_assignments", [nodeAssignments]⟩,
  ⟨"m005_create_node_installs", [nodeInstalls]⟩]

/-- A database, by the number of its applied migrations. -/
structure Database where
  count : Nat
  count_le : count ≤ migrations.length

namespace Database

/-- A database without tables. -/
def bare : Database := ⟨0, Nat.zero_le _⟩

/-- The applied migrations. -/
def applied (d : Database) : List Migration := migrations.take d.count

/-- The tables, in the order of their creation. -/
def tables (d : Database) : List Table := d.applied.flatMap (·.tables)

/-- Applies the migrations that follow, at most as many as the limit says. -/
def upgrade (d : Database) : Option Nat → Database
  | none => ⟨migrations.length, Nat.le_refl _⟩
  | some limit => ⟨min (d.count + limit) migrations.length, Nat.min_le_right _ _⟩

/-- Reverses the migrations applied last, at most as many as the limit says. -/
def downgrade (d : Database) : Option Nat → Database
  | none => bare
  | some limit => ⟨d.count - limit, Nat.le_trans (Nat.sub_le _ _) d.count_le⟩

end Database

/-- An order to the migrator. -/
inductive Change where
  | up (limit : Option Nat)
  | down (limit : Option Nat)
  /-- Drops all tables and applies all migrations. -/
  | fresh
  /-- Reverses and applies all migrations. -/
  | refresh
  /-- Reverses all migrations. -/
  | reset
  deriving DecidableEq, Repr

/-- Carries out an order. -/
def Database.run (d : Database) : Change → Database
  | .up limit => d.upgrade limit
  | .down limit => d.downgrade limit
  | .fresh => bare.upgrade none
  | .refresh => (d.downgrade none).upgrade none
  | .reset => d.downgrade none

end NodeFleet.Schema
