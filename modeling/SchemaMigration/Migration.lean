import SchemaMigration.Discovery
import SchemaMigration.Report

/-!
# Migration

A run applies every script that is newer than the newest record of the ledger, in order, and records
each one when all its statements have succeeded. The first failure ends it. Whatever happens, the
session is closed at the end.

* `Job.run` applies the pending scripts.
* `Job.status` only looks.
-/

namespace SchemaMigration

/-- What a run has to do. -/
structure Job where
  config : Config
  naming : NamingScheme
  dialect : Dialect
  /-- How many milliseconds each statement may take. -/
  timeout : Nat
  /-- The ids for the rows of the ledger, by their number within the run. -/
  rowId : Nat → Uuid

namespace Job

/-- The job for a configuration with scripts named in the standard way, started at a moment in
milliseconds. -/
def ofConfig (config : Config) (dialect : Dialect) (started : Nat) : Job where
  config := config
  naming := .standard
  dialect := dialect
  timeout := config.timeout
  rowId := Uuid.timeOrdered started

/-- The ledger of a job. -/
def ledger (job : Job) : Ledger where
  dialect := job.dialect
  keyspace := job.config.keyspace
  table := job.config.table
  checksums := job.config.verifyChecksums

/-- The scripts of the job's directory. -/
def discoverScripts (job : Job) (listing : Listing) : Task MigrationError (List Script) := do
  let found := discover job.naming job.config.scriptDirectory listing
  Task.sayAll found.logs
  Task.ofExcept (found.result.mapError .discovery)

end Job

/-- Records with a checksum that differs from that of the script of their name, each with the
checksum it has and the script. -/
def modifiedRecords (scripts : List Script) (records : List AppliedScript) :
    List (String × Script) :=
  records.filterMap fun record => do
    let expected ← record.checksum
    let script ← scripts.find? fun s => s.name == record.name
    if script.checksum = expected then none else some (expected, script)

/-- The names of the scripts that have changed since they were applied, in the order of their
records. -/
def modifiedNames (scripts : List Script) (records : List AppliedScript) : List String :=
  (modifiedRecords scripts records).map fun (_, script) => script.name

/-- The warning about a script that has changed since it was applied. -/
def modifiedLine (found : String × Script) : Log.Line :=
  ⟨.warn, .migration, found.2.name ++ " changed since it was applied (recorded " ++ found.1
    ++ ", found " ++ found.2.checksum ++ ")"⟩

/-- The line about the scripts that a run is going to apply. -/
def pendingLine (scripts : List Script) : Log.Line :=
  let text := match scripts with
    | [] => "No new cql files to migrate"
    | [script] => "New cql file to migrate: " ++ script.name
    | scripts => "New cql files to migrate: " ++ ", ".intercalate (scripts.map Script.name)
  ⟨.info, .migration, text⟩

namespace Job

/-- The names of changed scripts, each with a warning. -/
def checkModified (scripts : List Script) (records : List AppliedScript) :
    Task MigrationError (List String) := do
  Task.sayAll ((modifiedRecords scripts records).map modifiedLine)
  return modifiedNames scripts records

/-- Runs the statements of a script in order. -/
def runStatements (job : Job) (script : Script) : List String → Task MigrationError Unit
  | [] => return ()
  | statement :: statements => do
    Task.say .debug .migration
      ("Executing cql statement (from " ++ script.name ++ "):\n\n" ++ statement ++ "\n")
    let _ ← Task.execute job.timeout (.execute statement []) (.script script.name)
    runStatements job script statements

/-- Applies a script: runs its statements, then records it. -/
def applyScript (job : Job) (number : Nat) (script : Script) :
    Task MigrationError AppliedScript := do
  Task.say .info .migration ("Executing cql file " ++ script.name)
  job.runStatements script script.statements
  job.ledger.writeRecord job.timeout (job.rowId number) script

/-- Applies scripts in order, the first one as the given number. -/
def applyScripts (job : Job) : Nat → List Script → Task MigrationError (List AppliedScript)
  | _, [] => return []
  | number, script :: scripts => do
    let record ← job.applyScript number script
    let records ← applyScripts job (number + 1) scripts
    return record :: records

/-- Applies what is pending, for scripts that have been discovered. -/
def migrateScripts (job : Job) (scripts : List Script) : Task MigrationError Report := do
  let action ← job.ledger.bootstrap job.timeout job.config.replication job.config.refresh
  let records ← job.ledger.readRecords job.timeout
  match ← checkModified scripts records with
  | name :: _ => throw (.modified name job.ledger.qualified)
  | [] =>
    let completed := lastVersion records
    let due := pending scripts completed
    Task.sayAll [pendingLine due]
    let applied ← job.applyScripts 0 due
    return {
      discovered := scripts.length
      keyspace := some action
      previousVersion := completed
      applied := applied }

/-- Applies what is pending. Without scripts nothing is sent. -/
def migrate (job : Job) (listing : Listing) : Task MigrationError Report := do
  let scripts ← job.discoverScripts listing
  if scripts.isEmpty then
    Task.say .info .migration ("No cql files to migrate in " ++ job.config.scriptDirectory)
    return .nothingFound
  else
    job.migrateScripts scripts

/-- Compares the ledger with the scripts. -/
def inspect (job : Job) (listing : Listing) : Task MigrationError Status := do
  let scripts ← job.discoverScripts listing
  let present ← job.ledger.keyspaceExists job.timeout (.ledgerRead job.ledger.qualified)
  let records ← if present then job.ledger.readRecords job.timeout else pure []
  let modified ← checkModified scripts records
  return {
    keyspace := job.config.keyspace.text
    keyspacePresent := present
    lastApplied := lastVersion records
    applied := records
    pending := pending scripts (lastVersion records)
    modified := modified }

/-- Closes the session at the end of a task. An error of the task itself goes before an error of
closing. -/
def finish {α : Type} (outcome : Except MigrationError α) : Task MigrationError α := do
  match outcome, ← ExceptT.lift Dialogue.closing with
  | .ok value, none => return value
  | .ok _, some error => throw (.close error)
  | .error error, none => throw error
  | .error error, some closeError => do
    Task.say .warn .migration ("Failed to close database session: " ++ closeError.message)
    throw error

/-- A task followed by the end of the session. -/
def closingAfter {α : Type} (task : Task MigrationError α) : Task MigrationError α :=
  ExceptT.mk do
    let outcome ← task.run
    (finish outcome).run

/-- Applies what is pending and closes the session. -/
def run (job : Job) (listing : Listing) : Task MigrationError Report :=
  closingAfter (job.migrate listing)

/-- Compares the ledger with the scripts and closes the session. -/
def status (job : Job) (listing : Listing) : Task MigrationError Status :=
  closingAfter (job.inspect listing)

end Job

end SchemaMigration
