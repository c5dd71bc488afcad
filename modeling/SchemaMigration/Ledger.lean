import SchemaMigration.Config
import SchemaMigration.Script
import SchemaMigration.Session

/-!
# The ledger's statements

The ledger is the table that records which scripts have been applied. This module writes the
statements about it and about its keyspace, in either dialect.

Names are spliced into the text; everything else is bound to placeholders, except the replication,
which is a literal. With checksums the ledger has a fourth column.
-/

namespace SchemaMigration

/-- Which table is the ledger, and what its rows hold. -/
structure Ledger where
  dialect : Dialect
  keyspace : KeyspaceName
  table : TableName
  /-- Whether rows hold the checksums of the scripts. -/
  checksums : Bool

/-- One datacenter's entry of a replication literal, after a comma. -/
def replicationEntry (entry : String × UInt8) : String :=
  ", '" ++ entry.1 ++ "': " ++ Text.decimal entry.2.toNat

/-- A replication setting as a map literal. -/
def Replication.literal : Replication → String
  | .simple factor =>
    "\x7b'class': 'SimpleStrategy', 'replication_factor': " ++ Text.decimal factor.toNat ++ "\x7d"
  | .perDatacenter dcs =>
    "\x7b'class': 'NetworkTopologyStrategy'" ++ String.join (dcs.entries.map replicationEntry)
      ++ "\x7d"

namespace Ledger

/-- The table's name with its keyspace. -/
def qualified (l : Ledger) : String :=
  l.keyspace.text ++ "." ++ l.table.text

/-- Lists the tables of the keyspace. No table means that there is no keyspace. -/
def listTables (l : Ledger) : Statement :=
  match l.dialect with
  | .cql =>
    .query "SELECT table_name FROM system_schema.tables WHERE keyspace_name = ?"
      [.text l.keyspace.text]
  | .duckdb =>
    .query "SELECT table_name FROM information_schema.tables WHERE table_schema = ?"
      [.text l.keyspace.text]

/-- Drops the keyspace with everything in it. -/
def dropKeyspace (l : Ledger) : Statement :=
  match l.dialect with
  | .cql => .execute ("DROP KEYSPACE " ++ l.keyspace.text) []
  | .duckdb => .execute ("DROP SCHEMA " ++ l.keyspace.text ++ " CASCADE") []

/-- Creates the keyspace. Only one dialect knows replication. -/
def createKeyspace (l : Ledger) (replication : Replication) : Statement :=
  match l.dialect with
  | .cql =>
    .execute ("CREATE KEYSPACE " ++ l.keyspace.text ++ " WITH replication = "
      ++ replication.literal) []
  | .duckdb => .execute ("CREATE SCHEMA " ++ l.keyspace.text) []

/-- The columns of the table with their types. -/
def columnTypes (l : Ledger) : String :=
  match l.dialect, l.checksums with
  | .cql, false => "id timeuuid PRIMARY KEY, ver int, name varchar"
  | .cql, true => "id timeuuid PRIMARY KEY, ver int, name varchar, checksum varchar"
  | .duckdb, false => "id UUID PRIMARY KEY, ver INTEGER, name VARCHAR"
  | .duckdb, true => "id UUID PRIMARY KEY, ver INTEGER, name VARCHAR, checksum VARCHAR"

/-- Creates the table. -/
def createTable (l : Ledger) : Statement :=
  .execute ("CREATE TABLE " ++ l.qualified ++ " (" ++ l.columnTypes ++ ")") []

/-- The columns that are read and written, apart from the row's id. -/
def columns (l : Ledger) : String :=
  if l.checksums then "ver, name, checksum" else "ver, name"

/-- Reads every row. -/
def selectRows (l : Ledger) : Statement :=
  .query ("SELECT " ++ l.columns ++ " FROM " ++ l.qualified) []

/-- The placeholders for the columns that are written. -/
def placeholders (l : Ledger) : String :=
  if l.checksums then "?, ?, ?" else "?, ?"

/-- The text of the statement that adds a row. -/
def insertText (l : Ledger) (idValue : String) : String :=
  "INSERT INTO " ++ l.qualified ++ " (id, " ++ l.columns ++ ") VALUES (" ++ idValue ++ ", "
    ++ l.placeholders ++ ")"

/-- The values of a row, apart from its id. -/
def rowValues (l : Ledger) (version : Int) (script : Script) : List Value :=
  [.int version, .text script.name] ++ if l.checksums then [.text script.checksum] else []

/-- Adds the row of a script. One dialect makes the row's id itself, the other is given it. -/
def insertRow (l : Ledger) (id : Uuid) (version : Int) (script : Script) : Statement :=
  match l.dialect with
  | .cql => .execute (l.insertText "now()") (l.rowValues version script)
  | .duckdb => .execute (l.insertText "CAST(? AS UUID)") (.uuid id :: l.rowValues version script)

end Ledger

end SchemaMigration
