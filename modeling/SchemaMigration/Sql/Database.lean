import SchemaMigration.Sql.Datum
import SchemaMigration.Sql.Fault
import SchemaMigration.Identifier

/-!
# Databases

The schemas of a database with their tables and rows. Names keep the letters with which they were
given, but a name is found in letters of either case.

* `Database` holds everything that statements can see and change.
* `Table.append` adds rows that keep the table's rules.
-/

namespace SchemaMigration.Sql

/-- Whether two names name the same thing. -/
def sameName (a b : String) : Bool :=
  Name.fold a == Name.fold b

/-- A column of a table. -/
structure Column where
  name : String
  type : SqlType
  /-- Whether each row has a value in it. -/
  required : Bool
  deriving DecidableEq, Repr

/-- A table. -/
structure Table where
  name : String
  columns : List Column
  /-- Places of columns in which no two rows have the same values. -/
  keys : List (List Nat)
  rows : List Record
  deriving DecidableEq, Repr

/-- A schema with its tables. -/
structure Schema where
  name : String
  tables : List Table
  deriving DecidableEq, Repr

/-- A database. -/
structure Database where
  schemas : List Schema
  deriving DecidableEq, Repr

namespace Table

/-- The values of a row in some columns. -/
def project (row : Record) (places : List Nat) : Record :=
  places.map fun i => row[i]?.getD .null

/-- Whether two rows have the same values in a key; a value that is not there equals none. -/
def clash (key : List Nat) (a b : Record) : Bool :=
  project a key == project b key && !(project a key).contains .null

/-- Why a row may not be added to others, if so. -/
def fault? (table : Table) (rows : List Record) (row : Record) : Option Fault :=
  if ((table.columns.zip row).any fun (column, d) => column.required && d == .null) then
    some (.constraint "NOT NULL constraint failed")
  else if table.keys.any fun key => rows.any (clash key row) then
    some (.constraint "Duplicate key violates a key constraint")
  else none

/-- The table with rows added at its end, if they keep its rules. -/
def append (table : Table) : List Record → Except Fault Table
  | [] => .ok table
  | row :: rest =>
    match table.fault? table.rows row with
    | some fault => .error fault
    | none => append { table with rows := table.rows ++ [row] } rest

/-- The place of a column. -/
def place? (table : Table) (column : String) : Option Nat :=
  table.columns.findIdx? fun c => sameName c.name column

end Table

/-- A table of a schema, if it is there. -/
def Schema.table? (schema : Schema) (name : String) : Option Table :=
  schema.tables.find? fun t => sameName t.name name

namespace Database

/-- The name of the schema that is always there. -/
def mainSchema : String := "main"

/-- A database with nothing in it. -/
def empty : Database := ⟨[⟨mainSchema, []⟩]⟩

/-- A schema, if it is there. -/
def schema? (db : Database) (name : String) : Option Schema :=
  db.schemas.find? fun s => sameName s.name name

/-- A table, if it and its schema are there. -/
def table? (db : Database) (schema table : String) : Option Table :=
  (db.schema? schema).bind fun s => s.table? table

/-- The database with one more schema. -/
def addSchema (db : Database) (name : String) : Database :=
  ⟨db.schemas ++ [⟨name, []⟩]⟩

/-- The database without a schema and its tables. -/
def dropSchema (db : Database) (name : String) : Database :=
  ⟨db.schemas.filter fun s => !sameName s.name name⟩

/-- The database with the tables of a schema changed. -/
def onSchema (db : Database) (name : String) (change : List Table → List Table) : Database :=
  ⟨db.schemas.map fun s => if sameName s.name name then { s with tables := change s.tables } else s⟩

/-- The database without a table. -/
def dropTable (db : Database) (schema table : String) : Database :=
  db.onSchema schema fun tables => tables.filter fun t => !sameName t.name table

/-- The database with one more table in a schema. -/
def addTable (db : Database) (schema : String) (table : Table) : Database :=
  db.onSchema schema fun tables => tables ++ [table]

/-- The database with a table in the place of the one of its name. -/
def setTable (db : Database) (schema : String) (table : Table) : Database :=
  db.onSchema schema fun tables =>
    tables.map fun t => if sameName t.name table.name then table else t

/-- Every table with its schema, in the order of their names. -/
def allTables (db : Database) : List (String × Table) :=
  let byName (a b : String) : Bool := Name.fold a ≤ Name.fold b
  let schemas := db.schemas.mergeSort fun a b => byName a.name b.name
  schemas.flatMap fun s =>
    (s.tables.mergeSort fun a b => byName a.name b.name).map fun t => (s.name, t)

end Database

end SchemaMigration.Sql
