import SchemaMigration.Sha256
import SchemaMigration.Text.Blank
import SchemaMigration.Text.Pieces

/-!
# Migration scripts

A script is a versioned file of statements. Its text is cut at every semicolon, whatever encloses
it; blank pieces are dropped and the others trimmed.

* `Version.none` is the version of an empty ledger.
* `split` gives the statements of a text in order.
* `Script.ofContents` builds a script from a file's text.
-/

namespace SchemaMigration

/-- The version of a script; a greater one is newer. -/
abbrev Version := Nat

/-- The version that a ledger without rows is at. No script of this version is ever applied. -/
def Version.none : Version := 0

/-- A version as it is shown: three digits at least. -/
def Version.label (v : Version) : String :=
  "v" ++ Text.padded 3 v

/-- The character that ends a statement. -/
def terminator : Char := ';'

/-- The statements of a text: its pieces between semicolons, trimmed, without the empty ones. -/
def split (text : List Char) : List (List Char) :=
  ((Text.pieces terminator text).map Text.trim).filter fun s => !s.isEmpty

/-- The statements of a text. -/
def statementsOf (text : String) : List String :=
  (split text.toList).map String.ofList

/-- A migration script. -/
structure Script where
  version : Version
  /-- The file name, under which the script is recorded. -/
  name : String
  path : String
  statements : List String
  /-- The digest of the file's text before it is cut into statements. -/
  checksum : String
  deriving DecidableEq, Repr

/-- The script with a version, a name and a path whose file holds a text. -/
def Script.ofContents (version : Version) (name path contents : String) : Script where
  version := version
  name := name
  path := path
  statements := statementsOf contents
  checksum := Sha256.checksum contents

/-- The scripts newer than a version, in the same order. -/
def pending (scripts : List Script) (completed : Version) : List Script :=
  scripts.filter fun s => completed < s.version

end SchemaMigration
