import SchemaMigration.Discovery
import SchemaMigration.Session

/-!
# Errors of a run

What ends a run. Nothing is retried and nothing is taken back.
-/

namespace SchemaMigration

/-- Why a run ended. -/
inductive MigrationError where
  | connection (error : SessionError)
  | discovery (error : DiscoveryError)
  | bootstrap (keyspace : String) (error : SessionError)
  | script (name : String) (error : SessionError)
  | ledgerRead (table : String) (error : SessionError)
  | ledgerWrite (script table reason : String)
  | ledgerRow (table reason : String)
  | close (error : SessionError)
  | modified (script table : String)
  deriving DecidableEq, Repr

namespace MigrationError

/-- The error as it is reported. -/
def message : MigrationError → String
  | .connection e => "[M001] Unable to connect to the database: " ++ e.message
  | .discovery e => "[M002] Script discovery failed: " ++ e.message
  | .bootstrap keyspace e => "[M003] Failed to prepare keyspace " ++ keyspace ++ ": " ++ e.message
  | .script name e => "[M004] Failed executing cql file " ++ name ++ ": " ++ e.message
  | .ledgerRead table e =>
    "[M005] Failed to read migration ledger " ++ table ++ ": " ++ e.message
  | .ledgerWrite name table reason =>
    "[M006] Failed to record " ++ name ++ " in migration ledger " ++ table ++ ": " ++ reason
  | .ledgerRow table reason =>
    "[M007] Malformed row in migration ledger " ++ table ++ ": " ++ reason
  | .close e => "[M008] Failed to close database session: " ++ e.message
  | .modified name table =>
    "[M009] Previously migrated file '" ++ name ++ "' has been modified: its contents no longer "
      ++ "match the checksum recorded in " ++ table

/-- The messages of what caused the error, the nearest cause first. -/
def underlying : MigrationError → List String
  | .connection e | .bootstrap _ e | .script _ e | .ledgerRead _ e | .close e => [e.message]
  | .discovery e => e.causes
  | .ledgerWrite _ _ _ | .ledgerRow _ _ | .modified _ _ => []

/-- The messages of the error and of what caused it, outermost first. -/
def causes (e : MigrationError) : List String :=
  e.message :: e.underlying

end MigrationError

/-- Messages in one line, outermost first. -/
def chain (messages : List String) : String :=
  ": ".intercalate messages

end SchemaMigration
