import SchemaMigration.Identifier
import SchemaMigration.Replication

/-!
# Configuration

A run's configuration is stacked from layers, each of which may set some of the values: built-in
defaults, a file, and the command line with its environment.

* `Layer.overlay` puts one layer over another; a value that the higher one sets wins.
* `Config.resolve` checks the stack and fills in the defaults.
-/

namespace SchemaMigration

/-- What the database is. -/
inductive Backend where
  | duckdb
  | cassandra
  deriving DecidableEq, Repr

/-- A value that a configuration sets. -/
inductive ConfigKey where
  | backend
  | databasePath
  | host
  | port
  | scriptDirectory
  | keyspace
  | table
  | refresh
  | verifyChecksums
  | statementTimeout
  | replication
  deriving DecidableEq, Repr

namespace ConfigKey

/-- The keys in the order in which they are documented. -/
def all : List ConfigKey :=
  [.backend, .databasePath, .host, .port, .scriptDirectory, .keyspace, .table, .refresh,
    .verifyChecksums, .statementTimeout, .replication]

/-- The key as a configuration file spells it. -/
def name : ConfigKey → String
  | .backend => "database.backend"
  | .databasePath => "database.path"
  | .host => "database.host"
  | .port => "database.port"
  | .scriptDirectory => "cql_dir"
  | .keyspace => "keyspace"
  | .table => "table"
  | .refresh => "refresh"
  | .verifyChecksums => "verify_checksums"
  | .statementTimeout => "statement_timeout_secs"
  | .replication => "replication"

/-- The environment variable that sets the key, empty if there is none. -/
def environmentName : ConfigKey → String
  | .backend => "CQLMIGRATE_BACKEND"
  | .databasePath => "CQLMIGRATE_DATABASE_PATH"
  | .host => "CQLMIGRATE_HOST"
  | .port => "CQLMIGRATE_PORT"
  | .scriptDirectory => "CQLMIGRATE_CQL_DIR"
  | .keyspace => "CQLMIGRATE_KEYSPACE"
  | .table => "CQLMIGRATE_TABLE"
  | .refresh => "CQLMIGRATE_REFRESH"
  | .verifyChecksums => "CQLMIGRATE_VERIFY_CHECKSUMS"
  | .statementTimeout => "CQLMIGRATE_TIMEOUT_SECS"
  | .replication => ""

end ConfigKey

/-- Why a configuration is refused. -/
inductive ConfigError where
  | missing (key : ConfigKey)
  | unknownBackend (name : String)
  | zeroPort
  | emptyPath
  | emptyHost
  | zeroTimeout
  | replication (fault : Replication.Fault)
  | identifier (error : NameError)
  deriving DecidableEq, Repr

namespace ConfigError

/-- The text about an invalid value. -/
def invalid (key reason : String) : String :=
  "[C002] Invalid config '" ++ key ++ "': " ++ reason

/-- The error as it is reported. -/
def message : ConfigError → String
  | .missing key =>
    "[C001] Missing required config '" ++ key.name ++ "': set " ++ key.environmentName ++ " or '"
      ++ key.name ++ "' in the config file"
  | .unknownBackend name =>
    invalid ConfigKey.backend.name
      ("unknown backend '" ++ name ++ "', expected 'duckdb' or 'cassandra'")
  | .zeroPort => invalid ConfigKey.port.name "port must be between 1 and 65535"
  | .emptyPath => invalid ConfigKey.databasePath.name "path must not be empty"
  | .emptyHost => invalid ConfigKey.host.name "host must not be empty"
  | .zeroTimeout => invalid ConfigKey.statementTimeout.name "timeout must be at least 1 second"
  | .replication fault => invalid ConfigKey.replication.name fault.message
  | .identifier e => e.message

end ConfigError

namespace Backend

/-- The name of a backend. -/
def label : Backend → String
  | .duckdb => "duckdb"
  | .cassandra => "cassandra"

/-- The backend that a name stands for, in letters of either case. -/
def parse (name : String) : Except ConfigError Backend :=
  let folded := Name.fold name
  if folded = "duckdb" then .ok .duckdb
  else if folded = "cassandra" || folded = "scylla" then .ok .cassandra
  else .error (.unknownBackend folded)

end Backend

/-- What a layer says about the database. -/
structure DatabaseLayer where
  backend : Option String := none
  path : Option String := none
  host : Option String := none
  port : Option UInt16 := none
  deriving DecidableEq, Repr

/-- One layer of a configuration. Every value may be unset. -/
structure Layer where
  database : Option DatabaseLayer := none
  scriptDirectory : Option String := none
  keyspace : Option String := none
  table : Option String := none
  refresh : Option Bool := none
  verifyChecksums : Option Bool := none
  timeoutSeconds : Option UInt64 := none
  replication : Option Replication := none
  deriving DecidableEq

/-- A layer that sets nothing. -/
def Layer.empty : Layer := {}

/-- What two layers together say about the database. -/
def DatabaseLayer.overlay (low high : DatabaseLayer) : DatabaseLayer where
  backend := high.backend.or low.backend
  path := high.path.or low.path
  host := high.host.or low.host
  port := high.port.or low.port

/-- What two layers together say about the database, if either says anything. -/
def overlayDatabase : Option DatabaseLayer → Option DatabaseLayer → Option DatabaseLayer
  | some low, some high => some (low.overlay high)
  | low, high => high.or low

/-- Two layers in one; what the higher one sets wins. -/
def Layer.overlay (low high : Layer) : Layer where
  database := overlayDatabase low.database high.database
  scriptDirectory := high.scriptDirectory.or low.scriptDirectory
  keyspace := high.keyspace.or low.keyspace
  table := high.table.or low.table
  refresh := high.refresh.or low.refresh
  verifyChecksums := high.verifyChecksums.or low.verifyChecksums
  timeoutSeconds := high.timeoutSeconds.or low.timeoutSeconds
  replication := high.replication.or low.replication

/-- Where the database is. -/
structure DatabaseConfig where
  backend : Backend := .duckdb
  path : String := "cqlmigrate.duckdb"
  host : String := "localhost"
  port : UInt16 := 9042
  deriving DecidableEq, Repr

/-- The configuration of a run. -/
structure Config where
  database : DatabaseConfig
  scriptDirectory : String
  keyspace : KeyspaceName
  table : TableName
  refresh : Bool
  verifyChecksums : Bool
  timeoutSeconds : UInt64
  replication : Replication
  deriving DecidableEq

namespace Config

/-- The name of the ledger table unless a layer sets one. -/
def defaultTable : String := "migrated_cql"

/-- The seconds that a statement may take unless a layer sets them. -/
def defaultTimeout : UInt64 := 10

/-- The milliseconds that a statement may take. -/
def timeout (config : Config) : Nat :=
  config.timeoutSeconds.toNat * 1000

/-- A value that has to be set. -/
def required {α : Type} (key : ConfigKey) : Option α → Except ConfigError α
  | some value => .ok value
  | none => .error (.missing key)

/-- A condition that has to hold. -/
def check (condition : Bool) (error : ConfigError) : Except ConfigError Unit :=
  if condition then .ok () else .error error

/-- The backend that a layer names, if it names one. -/
def resolveBackend : Option String → Except ConfigError Backend
  | some name => Backend.parse name
  | none => .ok .duckdb

/-- The database that a layer describes. -/
def resolveDatabase (layer : DatabaseLayer) : Except ConfigError DatabaseConfig := do
  let defaults : DatabaseConfig := {}
  let backend ← resolveBackend layer.backend
  let database : DatabaseConfig := {
    backend := backend
    path := layer.path.getD defaults.path
    host := layer.host.getD defaults.host
    port := layer.port.getD defaults.port }
  check (database.port ≠ 0) .zeroPort
  check (database.path ≠ "") .emptyPath
  check (database.host ≠ "") .emptyHost
  return database

/-- The setting itself if it breaks no rule. -/
def checkReplication (replication : Replication) : Except ConfigError Unit :=
  match replication.fault? with
  | some fault => .error (.replication fault)
  | none => .ok ()

/-- The configuration that a stack of layers describes. The rules are checked one after the other,
and the first that fails is the error. -/
def resolve (layer : Layer) : Except ConfigError Config := do
  let database ← resolveDatabase (layer.database.getD {})
  let scriptDirectory ← required .scriptDirectory layer.scriptDirectory
  let keyspace ← required .keyspace layer.keyspace
  let keyspace ← (Name.parse .keyspace keyspace).mapError .identifier
  let table ← (Name.parse .table (layer.table.getD defaultTable)).mapError .identifier
  let timeoutSeconds := layer.timeoutSeconds.getD defaultTimeout
  check (timeoutSeconds ≠ 0) .zeroTimeout
  let replication := layer.replication.getD .standard
  checkReplication replication
  return {
    database := database
    scriptDirectory := scriptDirectory
    keyspace := keyspace
    table := table
    refresh := layer.refresh.getD false
    verifyChecksums := layer.verifyChecksums.getD false
    timeoutSeconds := timeoutSeconds
    replication := replication }

end Config

end SchemaMigration
