import SchemaMigration.Ledger.Bootstrap
import SchemaMigration.Text.Columns
import SchemaMigration.Text.Json

/-!
# Reports

What a run did, and how the ledger stands against the scripts, as values, as JSON and as text.
-/

namespace SchemaMigration

/-- What a successful run did. -/
structure Report where
  /-- How many scripts were found. -/
  discovered : Nat
  /-- What happened to the keyspace; nothing, if no script was found. -/
  keyspace : Option KeyspaceAction
  /-- The newest version before the run. -/
  previousVersion : Version
  /-- The scripts that the run applied, in order. -/
  applied : List AppliedScript
  deriving DecidableEq, Repr

/-- How the ledger stands against the scripts. -/
structure Status where
  keyspace : String
  keyspacePresent : Bool
  lastApplied : Version
  applied : List AppliedScript
  pending : List Script
  /-- Applied scripts whose file has changed since. -/
  modified : List String
  deriving DecidableEq, Repr

namespace Report

/-- The report of a run that found no script. -/
def nothingFound : Report where
  discovered := 0
  keyspace := none
  previousVersion := Version.none
  applied := []

/-- Whether the run applied nothing. -/
def isUpToDate (r : Report) : Bool :=
  r.applied.isEmpty

/-- The newest version after the run. -/
def currentVersion (r : Report) : Version :=
  match r.applied.getLast? with
  | some record => record.version
  | none => r.previousVersion

end Report

/-! ## JSON -/

/-- A record as JSON. A checksum that is not there is left out. -/
def AppliedScript.toJson (record : AppliedScript) : Text.Json :=
  .object ([("version", .int record.version), ("name", .text record.name)]
    ++ match record.checksum with
      | some checksum => [("checksum", .text checksum)]
      | none => [])

/-- A script as JSON: its version and its name. -/
def Script.toJson (script : Script) : Text.Json :=
  .object [("version", .int script.version), ("name", .text script.name)]

/-- A report as JSON. -/
def Report.toJson (r : Report) : Text.Json :=
  .object [
    ("discovered", .int r.discovered),
    ("keyspace", match r.keyspace with
      | some action => .text action.label
      | none => .null),
    ("previous_version", .int r.previousVersion),
    ("applied", .list (r.applied.map AppliedScript.toJson))]

/-- A status as JSON. -/
def Status.toJson (s : Status) : Text.Json :=
  .object [
    ("keyspace", .text s.keyspace),
    ("keyspace_present", .bool s.keyspacePresent),
    ("last_applied", .int s.lastApplied),
    ("applied", .list (s.applied.map AppliedScript.toJson)),
    ("pending", .list (s.pending.map Script.toJson)),
    ("modified", .list (s.modified.map .text))]

/-! ## Text -/

/-- The headers of a table of scripts. -/
def scriptHeaders : List String := ["VERSION", "NAME"]

/-- A table of records. -/
def recordTable (records : List AppliedScript) : String :=
  Text.table scriptHeaders (records.map fun r => [Version.label r.version, r.name])

/-- A table of scripts. -/
def scriptTable (scripts : List Script) : String :=
  Text.table scriptHeaders (scripts.map fun s => [Version.label s.version, s.name])

/-- A report as text. -/
def Report.render (keyspace : String) (r : Report) : String :=
  if r.discovered = 0 then "No cql files found, nothing to migrate"
  else
    let head := match r.keyspace with
      | some action => "Keyspace " ++ keyspace ++ ": " ++ action.label ++ "\n"
      | none => ""
    if r.isUpToDate then head ++ "Already up to date at " ++ Version.label r.currentVersion
    else
      head ++ "Applied " ++ Text.decimal r.applied.length ++ " cql file"
        ++ (if r.applied.length = 1 then "" else "s") ++ " (" ++ Version.label r.previousVersion
        ++ " -> " ++ Version.label r.currentVersion ++ ")\n\n" ++ recordTable r.applied

/-- A status as text. -/
def Status.render (s : Status) : String :=
  let head :=
    if s.keyspacePresent then
      "Keyspace " ++ s.keyspace ++ ": present, last applied " ++ Version.label s.lastApplied ++ "\n"
    else "Keyspace " ++ s.keyspace ++ ": absent\n"
  let applied := if s.applied.isEmpty then "" else "\nApplied:\n" ++ recordTable s.applied ++ "\n"
  let modified :=
    if s.modified.isEmpty then ""
    else "\nModified since applied: " ++ ", ".intercalate s.modified ++ "\n"
  let pending :=
    if s.pending.isEmpty then "\nNo pending cql files" else "\nPending:\n" ++ scriptTable s.pending
  head ++ applied ++ modified ++ pending

end SchemaMigration
