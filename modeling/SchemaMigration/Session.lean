import SchemaMigration.Statement

/-!
# Sessions

A connection to the database, as a machine that answers statements one at a time. Time is counted in
milliseconds and only by how long each statement takes.

* `SessionError` is what can go wrong with a statement or a connection.
* `Session` gives the answers; its state is whatever the database keeps.
-/

namespace SchemaMigration

/-- The language of a session's statements. -/
inductive Dialect where
  | cql
  /-- Statements of the embedded database, where a keyspace is a schema. -/
  | duckdb
  deriving DecidableEq, Repr

/-- What can go wrong with a statement or a connection. -/
inductive SessionError where
  | connection (reason : String)
  | execution (statement reason : String)
  | notApplied (statement : String)
  | timeout (statement : String) (milliseconds : Nat)
  | notImplemented (backend feature : String)
  | poisoned (reason : String)
  | closed
  | close (reason : String)
  | internal (reason : String)
  deriving DecidableEq, Repr

/-- The error as it is reported. -/
def SessionError.message : SessionError → String
  | .connection reason => "[D001] Database connection failed: " ++ reason
  | .execution statement reason =>
    "[D002] Statement execution failed: " ++ reason ++ "\n  statement: " ++ statement
  | .notApplied statement => "[D003] Statement was not applied: " ++ statement
  | .timeout statement milliseconds =>
    "[D004] Statement timed out after " ++ Text.decimal milliseconds ++ " ms: " ++ statement
  | .notImplemented backend feature =>
    "[D005] Feature not implemented for " ++ backend ++ ": " ++ feature
  | .poisoned reason => "[D006] Database mutex poisoned: " ++ reason
  | .closed => "[D007] Database session is closed"
  | .close reason => "[D008] Failed to close database session: " ++ reason
  | .internal reason => "[D009] Internal database error: " ++ reason

/-- What becomes of a statement: the time it takes, and then its answer. -/
structure Reply where
  elapsed : Nat
  answer : Except SessionError Answer

/-- A connection to a database with states in `σ`. -/
structure Session (σ : Type) where
  /-- What kind of database is behind it. -/
  backend : String
  dialect : Dialect
  /-- Runs a statement. -/
  send : σ → Statement → Reply × σ
  /-- Aborts the running statement. -/
  cancel : σ → σ
  /-- Releases the connection; the error, if that fails. -/
  close : σ → Option SessionError × σ

end SchemaMigration
