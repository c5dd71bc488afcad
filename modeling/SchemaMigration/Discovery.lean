import SchemaMigration.Files
import SchemaMigration.Log
import SchemaMigration.Naming

/-!
# Discovery of scripts

The scripts of a directory: every regular file whose name follows the naming scheme, in the order of
the names, which is the order of the versions.

* `Listing` is what the file system says about the directory.
* `discover` reads the scripts; the order in which the entries are listed does not matter.
* `versionWarnings` points out scripts that are never applied and scripts that share a version.
-/

namespace SchemaMigration

/-- An entry of a directory: a file with its bytes, or something else. -/
inductive EntryKind where
  | file (bytes : ByteArray)
  | other

/-- What a directory holds, or why that is not known. -/
inductive Listing where
  | missing
  | refused (reason : String)
  | entries (items : List (String × EntryKind))

/-- What the files below a working directory say about a path. -/
def Listing.ofFiles (files : Files) (path : String) : Listing :=
  match files.list path with
  | .ok items => .entries (items.map fun (name, entry) =>
      (name, match entry with | .file bytes => .file bytes | .directory => .other))
  | .error .missing => .missing
  | .error fault => .refused fault.message

/-- Why scripts cannot be discovered. -/
inductive DiscoveryError where
  | version (error : VersionError)
  | directory (path reason : String)
  | read (path reason : String)
  deriving DecidableEq, Repr

namespace DiscoveryError

/-- The error as it is reported. -/
def message : DiscoveryError → String
  | .version e => e.message
  | .directory path reason =>
    "[S002] Failed to list script directory '" ++ path ++ "': " ++ reason
  | .read path reason => "[S003] Failed to read script '" ++ path ++ "': " ++ reason

/-- The messages of the error and of what caused it, outermost first. -/
def causes (e : DiscoveryError) : List String :=
  e.message :: match e with
    | .version _ => []
    | .directory _ reason => [reason]
    | .read _ reason => [reason]

end DiscoveryError

/-- A line of the discovery's log. -/
def discoveryLine (level : Log.Level) (text : String) : Log.Line :=
  ⟨level, .discovery, text⟩

/-- The path of a name in a directory. -/
def pathIn (directory name : String) : String :=
  if directory = "" || directory.toList.getLast? = some '/' then directory ++ name
  else directory ++ "/" ++ name

/-- The regular files of a listing that the scheme accepts, in the order of their names. -/
def candidates (naming : NamingScheme) (items : List (String × EntryKind)) :
    List (String × ByteArray) :=
  let files := items.filterMap fun (name, kind) =>
    match kind with
    | .file bytes => if naming.accepts name then some (name, bytes) else none
    | .other => none
  files.mergeSort fun a b => a.1 ≤ b.1

/-- The script that a file holds. -/
def readScript (naming : NamingScheme) (directory : String) (file : String × ByteArray) :
    Except DiscoveryError Script := do
  let version ← (naming.version file.1).mapError .version
  let path := pathIn directory file.1
  match String.fromUTF8? file.2 with
  | some contents => .ok (Script.ofContents version file.1 path contents)
  | none => .error (.read path Files.Fault.notText.message)

/-- Reads files one after the other up to the first that cannot be read. -/
def readScripts (naming : NamingScheme) (directory : String) :
    List (String × ByteArray) → Except DiscoveryError (List Script)
  | [] => .ok []
  | file :: files => do
    let script ← readScript naming directory file
    let rest ← readScripts naming directory files
    .ok (script :: rest)

/-- The warning about a script that no run applies. -/
def neverApplied (script : Script) : Log.Line :=
  discoveryLine .warn (script.name
    ++ " has version 0, which is the empty-ledger marker; it will never be applied")

/-- The warning about two scripts of one version. -/
def sharedVersion (first second : Script) : Log.Line :=
  discoveryLine .warn (first.name ++ " and " ++ second.name ++ " share version "
    ++ Version.label second.version ++ "; both are applied in name order")

/-- One warning for each two neighbours of one version. -/
def sharedWarnings : List Script → List Log.Line
  | first :: second :: rest =>
    if first.version = second.version then
      sharedVersion first second :: sharedWarnings (second :: rest)
    else sharedWarnings (second :: rest)
  | _ => []

/-- The warnings about the versions of discovered scripts. -/
def versionWarnings (scripts : List Script) : List Log.Line :=
  (scripts.filter fun s => s.version = Version.none).map neverApplied ++ sharedWarnings scripts

/-- The lines about files that are no scripts. -/
def ignoredLines (naming : NamingScheme) (items : List (String × EntryKind)) : List Log.Line :=
  items.filterMap fun (name, kind) =>
    match kind with
    | .file _ =>
      if naming.accepts name then none
      else some (discoveryLine .debug ("Ignoring " ++ name ++ ": not a migration script name"))
    | .other => none

/-- The outcome of a discovery and what it logs. -/
structure Discovery where
  result : Except DiscoveryError (List Script)
  logs : List Log.Line

/-- The scripts of a directory. A missing directory holds none. -/
def discover (naming : NamingScheme) (directory : String) : Listing → Discovery
  | .missing =>
    ⟨.ok [], [discoveryLine .info ("Script directory " ++ directory ++ " does not exist")]⟩
  | .refused reason => ⟨.error (.directory directory reason), []⟩
  | .entries items =>
    let ignored := ignoredLines naming items
    match readScripts naming directory (candidates naming items) with
    | .ok scripts => ⟨.ok scripts, ignored ++ versionWarnings scripts⟩
    | .error e => ⟨.error e, ignored⟩

end SchemaMigration
