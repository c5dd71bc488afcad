import SchemaMigration.Text.Numeral

/-!
# Faults

Why the embedded database refuses a statement. A fault is of a class, and the class comes first in
its message.
-/

namespace SchemaMigration.Sql

/-- Why a statement is refused. -/
inductive Fault where
  /-- The text is no statement. -/
  | parser (reason : String)
  /-- The text holds no statement. -/
  | nothing
  | containsNul (position : Nat)
  | catalogue (reason : String)
  | binder (reason : String)
  | constraint (reason : String)
  | conversion (reason : String)
  | outOfRange (reason : String)
  | dependency (reason : String)
  | invalidInput (reason : String)
  | io (reason : String)
  | interrupted
  | parameterCount (given needed : Nat)
  deriving DecidableEq, Repr

/-- The fault as it is reported. -/
def Fault.message : Fault → String
  | .parser reason => "Parser Error: " ++ reason
  | .nothing => "Error code 1: Unknown error code"
  | .containsNul position => "nul byte found in provided data at position: " ++ Text.decimal position
  | .catalogue reason => "Catalog Error: " ++ reason
  | .binder reason => "Binder Error: " ++ reason
  | .constraint reason => "Constraint Error: " ++ reason
  | .conversion reason => "Conversion Error: " ++ reason
  | .outOfRange reason => "Out of Range Error: " ++ reason
  | .dependency reason => "Dependency Error: " ++ reason
  | .invalidInput reason => "Invalid Input Error: " ++ reason
  | .io reason => "IO Error: " ++ reason
  | .interrupted => "INTERRUPT Error: Interrupted!"
  | .parameterCount given needed =>
    "Wrong number of parameters passed to query. Got " ++ Text.decimal given ++ ", needed "
      ++ Text.decimal needed

end SchemaMigration.Sql
