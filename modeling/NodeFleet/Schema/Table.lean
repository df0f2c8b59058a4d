import NodeFleet.Text.Integer

/-!
The tables of the database: their columns, references and indexes.

A table is described by what the database reports of it, so that two descriptions are equal exactly
when the tables have the same shape.
-/

namespace NodeFleet.Schema

/-- The declared type of a column. -/
inductive ColumnType where
  | integer
  | bigint
  | boolean
  | text
  | varchar (limit : Option Nat)
  deriving DecidableEq, Repr

/-- The declaration of a type. -/
def ColumnType.name : ColumnType → String
  | .integer => "INTEGER"
  | .bigint => "bigint"
  | .boolean => "boolean"
  | .text => "TEXT"
  | .varchar none => "varchar"
  | .varchar (some limit) => "varchar(" ++ Text.showNat limit ++ ")"

/-- A column of a table. -/
structure Column where
  name : String
  type : ColumnType
  isRequired : Bool
  /-- The expression for the value of a row that gives none. -/
  standard : Option String
  /-- The place in the primary key, counted from one; zero outside of it. -/
  keyPlace : Nat
  deriving DecidableEq, Repr

namespace Column

/-- A column that every row has a value in. -/
def required (name : String) (type : ColumnType) : Column := ⟨name, type, true, none, 0⟩

/-- A column that a row may leave empty. -/
def optional (name : String) (type : ColumnType) : Column := ⟨name, type, false, none, 0⟩

/-- A required column with a value for the rows that give none. -/
def preset (name : String) (type : ColumnType) (value : String) : Column :=
  ⟨name, type, true, some value, 0⟩

/-- A required column of the primary key. -/
def key (name : String) (type : ColumnType) (place : Nat) : Column :=
  ⟨name, type, true, none, place⟩

end Column

/-- A column that names a row of another table by its `id`; with that row, the rows that name it
are deleted. -/
structure Reference where
  column : String
  table : String
  deriving DecidableEq, Repr

/-- A table. -/
structure Table where
  name : String
  columns : List Column
  /-- In the order of their columns. -/
  references : List Reference
  indexes : List String
  deriving DecidableEq, Repr

/-- A text of any length. -/
def shortText : ColumnType := .varchar none

/-- The nodes. -/
def nodes : Table :=
  { name := "nodes"
    columns := [
      .key "id" .integer 1,
      .required "name" shortText,
      .preset "region" shortText "''",
      .required "address" shortText,
      .required "port" .integer,
      .preset "weight" .integer "1",
      .preset "max_users" .integer "0",
      .preset "enabled" .boolean "TRUE",
      .preset "status" (.varchar (some 16)) "'offline'",
      .preset "latency_ms" .integer "0",
      .optional "last_seen_at" shortText,
      .preset "sync_status" (.varchar (some 16)) "'pending'",
      .optional "synced_at" shortText,
      .preset "config_revision" .bigint "1",
      .preset "applied_revision" .bigint "0",
      .optional "sync_error" shortText,
      .required "tags" .text,
      .required "ip_whitelist" .text,
      .required "created_at" shortText,
      .required "updated_at" shortText]
    references := []
    indexes := ["idx_nodes_region"] }

/-- The tokens, one of a node. -/
def nodeTokens : Table :=
  { name := "node_tokens"
    columns := [
      .key "node_id" .integer 1,
      .required "token_hash" shortText,
      .required "issued_at" shortText,
      .optional "revoked_at" shortText]
    references := [⟨"node_id", "nodes"⟩]
    indexes := [] }

/-- The groups. -/
def nodeGroups : Table :=
  { name := "node_groups"
    columns := [
      .key "id" .integer 1,
      .required "name" shortText,
      .preset "description" shortText "''",
      .preset "region" shortText "''",
      .preset "strategy" (.varchar (some 32)) "'round-robin'",
      .required "created_at" shortText,
      .required "updated_at" shortText]
    references := []
    indexes := [] }

/-- The members of the groups. -/
def nodeGroupMembers : Table :=
  { name := "node_group_members"
    columns := [
      .key "group_id" .integer 1,
      .key "node_id" .integer 2,
      .required "added_at" shortText]
    references := [⟨"group_id", "node_groups"⟩, ⟨"node_id", "nodes"⟩]
    indexes := ["idx_node_group_members_node_id"] }

/-- The nodes of the users, one of a user. -/
def nodeAssignments : Table :=
  { name := "node_assignments"
    columns := [
      .key "user_id" shortText 1,
      .required "node_id" .integer,
      .required "assigned_at" shortText]
    references := [⟨"node_id", "nodes"⟩]
    indexes := ["idx_node_assignments_node_id"] }

/-- The records of the last installations, one of a node. -/
def nodeInstalls : Table :=
  { name := "node_installs"
    columns := [
      .key "node_id" .integer 1,
      .required "success" .boolean,
      .optional "failed_step" shortText,
      .optional "error_code" shortText,
      .required "steps" .text,
      .required "logs" .text,
      .required "started_at" shortText,
      .required "finished_at" shortText]
    references := [⟨"node_id", "nodes"⟩]
    indexes := [] }

end NodeFleet.Schema
