import SchemaMigration.CommandLine.Parsing
import SchemaMigration.Config.File
import SchemaMigration.Connection
import SchemaMigration.Migration

/-!
# Running a command

A command loads its configuration, opens the database, does its work and prints the result. An error
on the way ends it, and nothing is printed then.

* `loadConfig` puts the options over the configuration file.
* `Command.run` is everything that a command does.
-/

namespace SchemaMigration.CommandLine

/-- Why a command fails: where it was, and what went wrong there. -/
inductive CommandError where
  | configFile (error : ConfigFileError)
  | config (error : ConfigError)
  | session (error : SessionError)
  | migration (keyspace : String) (error : MigrationError)
  | status (error : MigrationError)
  deriving DecidableEq, Repr

namespace CommandError

/-- Where the command was. -/
def context : CommandError → String
  | .configFile _ => "Failed to load config file"
  | .config _ => "Invalid configuration"
  | .session _ => "Unable to open database session"
  | .migration keyspace _ => "Migration of keyspace " ++ keyspace ++ " failed"
  | .status _ => "Failed to read migration status"

/-- The messages of what went wrong, the nearest cause first. -/
def causes : CommandError → List String
  | .configFile e => e.causes
  | .config e => [e.message]
  | .session e => (MigrationError.connection e).causes
  | .migration _ e | .status e => e.causes

/-- The error in one line. -/
def message (e : CommandError) : String :=
  chain (e.context :: e.causes)

end CommandError

/-- The configuration that options describe, over the file that they name. -/
def loadConfig (files : Files) (options : GlobalOptions) : Except CommandError Config := do
  let low ← match options.configFile with
    | some path => (Layer.load files path).mapError .configFile
    | none => pure .empty
  (Config.resolve (low.overlay options.toLayer)).mapError .config

/-- What a command needs the database for. -/
def Action.access : Action → Access
  | .migrate => .readWrite
  | .status => .readOnly

/-- What a command did. -/
structure Ran where
  /-- What is printed, if it succeeded. -/
  result : Except CommandError String
  logs : List Log.Line
  files : Files

/-- A report as it is printed. -/
def printReport (output : OutputFormat) (keyspace : String) (r : Report) : String :=
  match output with
  | .json => r.toJson.pretty ++ "\n"
  | .table => r.render keyspace ++ "\n"

/-- A status as it is printed. -/
def printStatus (output : OutputFormat) (s : Status) : String :=
  match output with
  | .json => s.toJson.pretty ++ "\n"
  | .table => s.render ++ "\n"

/-- What a command says to the session. -/
def Action.task (action : Action) (output : OutputFormat) (job : Job) (listing : Listing) :
    Dialogue (Except CommandError String) :=
  match action with
  | .migrate => do
    let keyspace := job.config.keyspace.text
    let outcome ← (job.run listing).run
    return (outcome.map (printReport output keyspace)).mapError (.migration keyspace)
  | .status => do
    let outcome ← (job.status listing).run
    return (outcome.map (printStatus output)).mapError .status

/-- The line about the database that a command is going to use. -/
def connectingLine (config : Config) (access : Access) : Log.Line :=
  let purpose := match access with
    | .readWrite => "read-write"
    | .readOnly => "read-only"
  ⟨.debug, .command, "Connecting to " ++ config.database.backend.label ++ " backend for keyspace "
    ++ config.keyspace.text ++ " (" ++ purpose ++ ")"⟩

/-- Does what a command asks for with a configuration, started at a moment in milliseconds. -/
def Command.execute (command : Command) (files : Files) (config : Config) (started : Nat) : Ran :=
  let access := command.action.access
  let (lines, connected) := connect files config.database access
  let logs := connectingLine config access :: lines
  match connected with
  | .error e => ⟨.error (.session e), logs, files⟩
  | .ok c =>
    let job := Job.ofConfig config c.session.dialect started
    let listing := Listing.ofFiles c.files config.scriptDirectory
    let course := (command.action.task command.output job listing).play c.session c.start
    ⟨course.result, logs ++ course.lines c.session.backend, c.release course.state⟩

/-- Does what a command asks for. -/
def Command.run (command : Command) (files : Files) (started : Nat) : Ran :=
  match loadConfig files command.options with
  | .error e => ⟨.error e, [], files⟩
  | .ok config => command.execute files config started

end SchemaMigration.CommandLine
