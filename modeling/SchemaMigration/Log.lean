/-!
# Log lines

What a run tells about itself while it goes on. A line has a level and the component it comes from.
-/

namespace SchemaMigration.Log

/-- How much a line matters. -/
inductive Level where
  | trace
  | debug
  | info
  | warn
  deriving DecidableEq, Repr

/-- A level as it is shown. -/
def Level.label : Level → String
  | .trace => "TRACE"
  | .debug => "DEBUG"
  | .info => "INFO"
  | .warn => "WARN"

/-- The components that log. -/
inductive Component where
  | command
  | connection
  | database
  | discovery
  | bootstrap
  | executor
  | ledger
  | migration
  deriving DecidableEq, Repr

/-- A log line. -/
structure Line where
  level : Level
  component : Component
  text : String
  deriving DecidableEq, Repr

/-- A line with its level, as it is shown. -/
def Line.render (line : Line) : String :=
  line.level.label ++ " " ++ line.text

/-- Whether a line is shown without asking for more detail. -/
def Line.isShown (line : Line) : Bool :=
  line.level != .trace && line.level != .debug

end SchemaMigration.Log
