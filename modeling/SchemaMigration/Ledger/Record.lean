import SchemaMigration.Dialogue
import SchemaMigration.Ledger
import SchemaMigration.Migration.Error

/-!
# Reading and writing the ledger

* `Ledger.decodeRow` turns a row of the table into a record of an applied script.
* `Ledger.readRecords` gives all records in the order of their versions.
* `Ledger.writeRecord` adds the record of a script, and returns it as written.
-/

namespace SchemaMigration

/-- The record of a script that has been applied. -/
structure AppliedScript where
  version : Version
  name : String
  /-- The script's checksum, if the ledger holds it. -/
  checksum : Option String
  deriving DecidableEq, Repr

/-- The version of the newest record, for records in the order of their versions. -/
def lastVersion (records : List AppliedScript) : Version :=
  match records.getLast? with
  | some record => record.version
  | none => Version.none

namespace Ledger

/-- The least number that is no version any more. -/
def versionBound : Nat := twoTo 32

/-- The greatest version that the table has room for. -/
def maxColumnVersion : Nat := twoTo 31 - 1

/-- The error about a row that is no record. -/
def malformed (l : Ledger) (reason : String) : MigrationError :=
  .ledgerRow l.qualified reason

/-- The record in a row. Only the version has to be well-formed. -/
def decodeRow (l : Ledger) (row : Row) : Except MigrationError AppliedScript :=
  match row.int? 0 with
  | none => .error (l.malformed ("ver is not an integer: " ++ row.showColumn 0))
  | some v =>
    if 0 ≤ v ∧ v < versionBound then
      .ok {
        version := v.toNat
        name := (row.text? 1).getD ""
        checksum := if l.checksums then row.text? 2 else none }
    else .error (l.malformed ("ver " ++ Text.decimalInt v ++ " is negative"))

/-- The records in rows, up to the first row that is none. -/
def decodeRows (l : Ledger) : List Row → Except MigrationError (List AppliedScript)
  | [] => .ok []
  | row :: rows => do
    let record ← l.decodeRow row
    let records ← l.decodeRows rows
    .ok (record :: records)

/-- Records in the order of their versions; those of one version stay in order. -/
def sortRecords (records : List AppliedScript) : List AppliedScript :=
  records.mergeSort fun a b => a.version ≤ b.version

/-- Whether the keyspace exists, which it does if it has a table. -/
def keyspaceExists {ε : Type} (l : Ledger) (timeout : Nat) (wrap : SessionError → ε) :
    Task ε Bool := do
  let answer ← Task.execute timeout l.listTables wrap
  return !answer.rows.isEmpty

/-- All records, in the order of their versions. -/
def readRecords (l : Ledger) (timeout : Nat) : Task MigrationError (List AppliedScript) := do
  let answer ← Task.execute timeout l.selectRows (.ledgerRead l.qualified)
  let records ← Task.ofExcept (l.decodeRows answer.rows)
  return sortRecords records

/-- The record of a script. -/
def recordOf (l : Ledger) (script : Script) : AppliedScript where
  version := script.version
  name := script.name
  checksum := if l.checksums then some script.checksum else none

/-- Adds the record of a script, under an id. A version that the table has no room for is refused
before anything is sent. -/
def writeRecord (l : Ledger) (timeout : Nat) (id : Uuid) (script : Script) :
    Task MigrationError AppliedScript := do
  if maxColumnVersion < script.version then
    throw (.ledgerWrite script.name l.qualified
      ("version " ++ Version.label script.version ++ " does not fit the ledger ver column"))
  let _ ← Task.execute timeout (l.insertRow id script.version script)
    fun e => .ledgerWrite script.name l.qualified e.message
  Task.say .debug .ledger ("Recorded " ++ script.name ++ " (" ++ Version.label script.version
    ++ ") in " ++ l.qualified)
  return l.recordOf script

end Ledger

end SchemaMigration
