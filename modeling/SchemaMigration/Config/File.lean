import SchemaMigration.Config.Document
import SchemaMigration.Files

/-!
# Layers in files

A layer may come from a file. A file that is not there, that cannot be read or that is no
configuration is an error that names it.
-/

namespace SchemaMigration

/-- Why a file gives no layer. -/
inductive ConfigFileError where
  | missing (path : String)
  | unreadable (path : String) (fault : Files.Fault)
  | document (path : String) (error : DocumentError)
  deriving DecidableEq, Repr

/-- A document's error in words. What makes a document malformed is not told. -/
def DocumentError.message : DocumentError → String
  | .malformed => "the document is not well-formed"
  | .value e => e.message

/-- The error as it is reported. -/
def ConfigFileError.message : ConfigFileError → String
  | .missing path => "[C003] Config file not found: " ++ path
  | .unreadable path fault =>
    ConfigError.invalid "config" ("cannot read " ++ path ++ ": " ++ fault.message)
  | .document path e => "[C004] Failed to parse config file " ++ path ++ ": " ++ e.message

/-- The messages of the error and of what caused it, outermost first. -/
def ConfigFileError.causes (e : ConfigFileError) : List String :=
  e.message :: match e with
    | .document _ error => [error.message]
    | .missing _ | .unreadable _ _ => []

/-- The layer in the file at the end of a path. -/
def Layer.load (files : Files) (path : String) : Except ConfigFileError Layer :=
  if files.existsAt path then
    match files.readText path with
    | .ok text => (Layer.ofYaml text).mapError (.document path)
    | .error fault => .error (.unreadable path fault)
  else .error (.missing path)

end SchemaMigration
