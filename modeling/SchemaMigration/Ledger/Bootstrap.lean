import SchemaMigration.Ledger.Record

/-!
# Bootstrap of the keyspace

Before any script runs, the keyspace has to exist with its ledger. The ledger is created together
with the keyspace, so a keyspace that is there is taken to hold it.
-/

namespace SchemaMigration

/-- What bootstrap did to the keyspace. -/
inductive KeyspaceAction where
  /-- It was there and was left alone. -/
  | unchanged
  /-- It was not there and has been created with its ledger. -/
  | created
  /-- It was there, and has been dropped and created again. -/
  | recreated
  deriving DecidableEq, Repr

/-- An action as it is shown. -/
def KeyspaceAction.label : KeyspaceAction → String
  | .unchanged => "unchanged"
  | .created => "created"
  | .recreated => "recreated"

namespace Ledger

/-- The error about a statement that prepares the keyspace. -/
def bootstrapError (l : Ledger) (e : SessionError) : MigrationError :=
  .bootstrap l.keyspace.text e

/-- Creates the keyspace and the ledger in it. -/
def create (l : Ledger) (timeout : Nat) (replication : Replication) : Task MigrationError Unit := do
  Task.say .info .bootstrap ("Creating keyspace " ++ l.keyspace.text)
  let _ ← Task.execute timeout (l.createKeyspace replication) l.bootstrapError
  Task.say .info .bootstrap ("Creating migration ledger " ++ l.qualified)
  let _ ← Task.execute timeout l.createTable l.bootstrapError

/-- Drops the keyspace. -/
def drop (l : Ledger) (timeout : Nat) : Task MigrationError Unit := do
  Task.say .info .bootstrap ("Refresh requested, dropping keyspace " ++ l.keyspace.text)
  let _ ← Task.execute timeout l.dropKeyspace l.bootstrapError

/-- Makes sure that the keyspace is there with its ledger. With `refresh` it starts empty. -/
def bootstrap (l : Ledger) (timeout : Nat) (replication : Replication) (refresh : Bool) :
    Task MigrationError KeyspaceAction := do
  let present ← l.keyspaceExists timeout l.bootstrapError
  if present then
    if refresh then
      l.drop timeout
      l.create timeout replication
      return .recreated
    else
      Task.say .debug .bootstrap ("Keyspace " ++ l.keyspace.text ++ " already exists")
      return .unchanged
  else
    l.create timeout replication
    return .created

end Ledger

end SchemaMigration
