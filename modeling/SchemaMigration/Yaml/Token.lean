/-!
# Tokens of YAML

The pieces of a YAML text once its layout is known: indentation and the colons behind keys have
become tokens of their own.
-/

namespace SchemaMigration.Yaml

/-- A token. -/
inductive Token where
  | version (major minor : Nat)
  | tagHandle (handle stem : String)
  | documentStart
  | documentEnd
  | blockSequence
  | blockMapping
  | blockEnd
  | flowSequence
  | flowSequenceEnd
  | flowMapping
  | flowMappingEnd
  | blockEntry
  | flowEntry
  | key
  | value
  | aliasTo (name : String)
  | anchor (name : String)
  | tag (handle suffix : String)
  /-- A scalar; a plain one is written without quotes and without an indicator. -/
  | scalar (plain literal : Bool) (text : String)
  deriving DecidableEq, Repr

end SchemaMigration.Yaml
