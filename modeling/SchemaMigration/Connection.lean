import SchemaMigration.Config
import SchemaMigration.Files
import SchemaMigration.Log
import SchemaMigration.Sql.Engine
import SchemaMigration.Sql.Storage

/-!
# Connections

How a run comes by its session. The embedded database lives in a file or in memory; sessions with a
cluster are not part of this library.

* `connect` opens the database that a configuration names.
* `Connected.release` is what the files are when the session is over.
-/

namespace SchemaMigration

/-- What a run needs a database for. -/
inductive Access where
  | readWrite
  | readOnly
  deriving DecidableEq, Repr

/-- A database that is open. -/
structure Connected where
  engine : Sql.Engine
  database : Sql.Database
  files : Files
  /-- The place of the file that keeps the database, unless it is in memory or may not change. -/
  keeper : Option Place

namespace Connected

/-- The session with the database. -/
def session (c : Connected) : Session Sql.Engine.State :=
  c.engine.session

/-- The session's state at its start. -/
def start (c : Connected) : Sql.Engine.State :=
  { database := c.database }

/-- The files when the session is over. -/
def release (c : Connected) (final : Sql.Engine.State) : Files :=
  match c.keeper with
  | some place => c.files.put place (.file final.database.encode)
  | none => c.files

end Connected

namespace Connection

/-- The path that stands for a database in memory. -/
def memoryPath : String := ":memory:"

/-- The name of a database: that of its file up to the first point. Some names are taken. -/
def catalogueName (path : String) : String :=
  if path = memoryPath || path = "" then "memory"
  else
    let file := ((Text.pieces '/' path.toList).getLast?).getD []
    let name := String.ofList (file.takeWhile (· != '.'))
    if ["main", "temp", "system"].contains (Name.fold name) then name ++ "_db" else name

/-- An empty database in memory. -/
def inMemory (files : Files) : Connected where
  engine := ⟨catalogueName memoryPath, false⟩
  database := .empty
  files := files
  keeper := none

/-- The error of a database file that cannot be opened. -/
def failure (path : String) (fault : Sql.Fault) : SessionError :=
  .connection (fault.message ++ ": " ++ path)

/-- Opens the database file at the end of a path to read and to write it. A file that is missing or
empty becomes one with an empty database. -/
def openFile (files : Files) (path : String) : Except Sql.Fault Connected :=
  let engine : Sql.Engine := ⟨catalogueName path, false⟩
  match files.find path with
  | .error .missing =>
    match files.vacancy path with
    | .ok place =>
      .ok ⟨engine, .empty, files.put place (.file Sql.Database.empty.encode), some place⟩
    | .error fault => .error (.io fault.message)
  | .error fault => .error (.io fault.message)
  | .ok place =>
    match files.at? place with
    | some (.file bytes) =>
      if bytes.isEmpty then
        .ok ⟨engine, .empty, files.put place (.file Sql.Database.empty.encode), some place⟩
      else match Sql.Database.decode? bytes with
        | some db => .ok ⟨engine, db, files, some place⟩
        | none => .error (.io "The file exists, but it is not a valid database file!")
    | _ => .error (.io "Could not read from a directory")

/-- Opens the database file at the end of a path to read it. -/
def openReadOnly (files : Files) (path : String) : Except Sql.Fault Connected :=
  match files.read path with
  | .ok bytes =>
    match Sql.Database.decode? bytes with
    | some db => .ok ⟨⟨catalogueName path, true⟩, db, files, none⟩
    | none => .error (.io "The file exists, but it is not a valid database file!")
  | .error fault => .error (.io fault.message)

/-- A line about a connection. -/
def line (level : Log.Level) (text : String) : Log.Line :=
  ⟨level, .connection, text⟩

/-- Opens the embedded database at a path to read and to write it. -/
def openEmbedded (files : Files) (path : String) : Except SessionError Connected :=
  if path = memoryPath || path = "" then .ok (inMemory files)
  else match Sql.Engine.nulPosition? path with
    | some position => .error (failure path (.containsNul position))
    | none => (openFile files path).mapError (failure path)

/-- Opens the embedded database at a path to read it. A file that is not there is not made; an empty
database stands in for it. -/
def openToRead (files : Files) (path : String) :
    List Log.Line × Except SessionError Connected :=
  if path = memoryPath then ([], .ok (inMemory files))
  else if files.existsAt path then
    ([line .debug ("Opening DuckDB database " ++ path ++ " read-only")],
      (openReadOnly files path).mapError (failure path))
  else
    ([line .info
      ("DuckDB database " ++ path ++ " does not exist yet, nothing has been migrated")],
      .ok (inMemory files))

/-- The error of a backend that is not part of this library. -/
def withoutCluster : SessionError :=
  .notImplemented Backend.cassandra.label
    "this build does not include the \x60cassandra\x60 feature"

end Connection

/-- Opens the database that a configuration names, with what there is to log about it. -/
def connect (files : Files) (config : DatabaseConfig) (access : Access) :
    List Log.Line × Except SessionError Connected :=
  match config.backend, access with
  | .cassandra, _ => ([], .error Connection.withoutCluster)
  | .duckdb, .readWrite =>
    ([Connection.line .debug ("Opening DuckDB database " ++ config.path)],
      Connection.openEmbedded files config.path)
  | .duckdb, .readOnly => Connection.openToRead files config.path

end SchemaMigration
