import SchemaMigration.Config

/-!
# Options of the command line

The options that a command line may hold, the rules for their values, and the record of those that
are given. Most of them set a configuration value, and then an environment variable may stand in for
them.

* `GlobalOptions.set` reads the value of an option into the record.
* `GlobalOptions.overlay` puts the options of a command over those in front of it.
* `GlobalOptions.toLayer` is the configuration layer that the options make.
-/

namespace SchemaMigration.CommandLine

/-- How a run shows its result. -/
inductive OutputFormat where
  | table
  | json
  deriving DecidableEq, Repr

/-- The word for a format. -/
def OutputFormat.label : OutputFormat → String
  | .table => "table"
  | .json => "json"

/-- The format that a word stands for. -/
def OutputFormat.ofWord? (word : String) : Option OutputFormat :=
  [OutputFormat.table, OutputFormat.json].find? fun f => f.label == word

/-- An option of the command line. -/
inductive Opt where
  | verbose
  | configFile
  | backend
  | databasePath
  | host
  | port
  | scriptDirectory
  | keyspace
  | table
  | refresh
  | noRefresh
  | verifyChecksums
  | timeout
  | output
  | help
  | version
  deriving DecidableEq, Repr

/-- Whether an option takes a value. -/
inductive Arity where
  /-- It takes none. -/
  | flag
  /-- It takes one, which may be the next word. -/
  | one
  /-- It takes one after an equals sign, and means true without. -/
  | switch
  deriving DecidableEq, Repr

namespace Opt

/-- The name that follows two hyphens. -/
def name : Opt → String
  | verbose => "verbose"
  | configFile => "config"
  | backend => "backend"
  | databasePath => "database-path"
  | host => "host"
  | port => "port"
  | scriptDirectory => "cql-dir"
  | keyspace => "keyspace"
  | table => "table"
  | refresh => "refresh"
  | noRefresh => "no-refresh"
  | verifyChecksums => "verify-checksums"
  | timeout => "timeout-secs"
  | output => "output"
  | help => "help"
  | version => "version"

/-- The letter that follows one hyphen, if the option has one. -/
def letter? : Opt → Option Char
  | verbose => some 'v'
  | configFile => some 'c'
  | keyspace => some 'k'
  | output => some 'o'
  | help => some 'h'
  | version => some 'V'
  | _ => none

/-- Whether the option takes a value. -/
def arity : Opt → Arity
  | verbose | noRefresh | help | version => .flag
  | refresh | verifyChecksums => .switch
  | _ => .one

/-- The configuration value that the option sets, if it is one that the environment may set too. -/
def key? : Opt → Option ConfigKey
  | backend => some .backend
  | databasePath => some .databasePath
  | host => some .host
  | port => some .port
  | scriptDirectory => some .scriptDirectory
  | keyspace => some .keyspace
  | table => some .table
  | refresh => some .refresh
  | verifyChecksums => some .verifyChecksums
  | timeout => some .statementTimeout
  | _ => none

/-- The options that stand in front of a command or after it. -/
def globals : List Opt :=
  [verbose, configFile, backend, databasePath, host, port, scriptDirectory, keyspace, table,
    refresh, noRefresh, verifyChecksums, timeout]

end Opt

/-- Why a command line is not a command: it asks for a text instead, or it breaks a rule. -/
inductive Refusal where
  | help
  | version
  /-- Nothing is given at all, which shows the help too. -/
  | nothingGiven
  | missingCommand
  | unknownCommand (word : String)
  | unknownArgument (word : String)
  | missingValue (option : Opt)
  /-- The value is none that the option lists. -/
  | invalidValue (option : Opt) (value : String)
  /-- The value does not read as what the option needs. -/
  | malformedValue (option : Opt) (value : String)
  | unexpectedValue (option : Opt) (value : String)
  | repeated (option : Opt)
  deriving DecidableEq, Repr

/-! ## Values -/

/-- The truth value that a word stands for, in letters of either case. -/
def switchValue? (word : String) : Option Bool :=
  let folded := Name.fold word
  if ["y", "yes", "t", "true", "on", "1"].contains folded then some true
  else if ["n", "no", "f", "false", "off", "0"].contains folded then some false
  else none

/-- The port that a numeral denotes. A sign is fine. -/
def portValue? (word : String) : Option UInt16 := do
  let n ← Text.ofSignedDigits? 10 word.toList
  if 0 ≤ n ∧ n < UInt16.size then some (UInt16.ofNat n.toNat) else none

/-- The digits of a numeral without its plus sign. -/
def unsignedDigits : List Char → List Char
  | '+' :: digits => digits
  | digits => digits

/-- The number of seconds that a numeral denotes. A plus sign is fine. -/
def secondsValue? (word : String) : Option UInt64 := do
  let n ← Text.ofDigits? 10 (unsignedDigits word.toList)
  if n < UInt64.size then some (UInt64.ofNat n) else none

/-- A value that may be malformed. -/
def reading {α : Type} (option : Opt) (word : String) : Option α → Except Refusal α
  | some value => .ok value
  | none => .error (.malformedValue option word)

/-- A path as a value; it may not be empty. -/
def pathValue (option : Opt) (word : String) : Except Refusal String :=
  if word = "" then .error (.missingValue option) else .ok word

/-! ## The record -/

/-- The options that every command knows, as far as they are given. -/
structure GlobalOptions where
  verbose : Bool := false
  configFile : Option String := none
  backend : Option String := none
  databasePath : Option String := none
  host : Option String := none
  port : Option UInt16 := none
  scriptDirectory : Option String := none
  keyspace : Option String := none
  table : Option String := none
  refresh : Option Bool := none
  noRefresh : Bool := false
  verifyChecksums : Option Bool := none
  timeoutSeconds : Option UInt64 := none
  deriving DecidableEq, Repr

namespace GlobalOptions

/-- Whether an option is given. -/
def has (options : GlobalOptions) : Opt → Bool
  | .verbose => options.verbose
  | .configFile => options.configFile.isSome
  | .backend => options.backend.isSome
  | .databasePath => options.databasePath.isSome
  | .host => options.host.isSome
  | .port => options.port.isSome
  | .scriptDirectory => options.scriptDirectory.isSome
  | .keyspace => options.keyspace.isSome
  | .table => options.table.isSome
  | .refresh => options.refresh.isSome
  | .noRefresh => options.noRefresh
  | .verifyChecksums => options.verifyChecksums.isSome
  | .timeout => options.timeoutSeconds.isSome
  | .output | .help | .version => false

/-- The options with one of them set from a word. -/
def set (options : GlobalOptions) (option : Opt) (word : String) : Except Refusal GlobalOptions :=
  match option with
  | .verbose => .ok { options with verbose := true }
  | .noRefresh => .ok { options with noRefresh := true }
  | .backend => .ok { options with backend := some word }
  | .databasePath => .ok { options with databasePath := some word }
  | .host => .ok { options with host := some word }
  | .keyspace => .ok { options with keyspace := some word }
  | .table => .ok { options with table := some word }
  | .configFile => do
    let path ← pathValue option word
    return { options with configFile := some path }
  | .scriptDirectory => do
    let path ← pathValue option word
    return { options with scriptDirectory := some path }
  | .port => do
    let port ← reading option word (portValue? word)
    return { options with port := some port }
  | .refresh => do
    let value ← reading option word (switchValue? word)
    return { options with refresh := some value }
  | .verifyChecksums => do
    let value ← reading option word (switchValue? word)
    return { options with verifyChecksums := some value }
  | .timeout => do
    let seconds ← reading option word (secondsValue? word)
    return { options with timeoutSeconds := some seconds }
  | .output | .help | .version => .ok options

/-- Two records in one; what the higher one sets wins. -/
def overlay (low high : GlobalOptions) : GlobalOptions where
  verbose := high.verbose || low.verbose
  configFile := high.configFile.or low.configFile
  backend := high.backend.or low.backend
  databasePath := high.databasePath.or low.databasePath
  host := high.host.or low.host
  port := high.port.or low.port
  scriptDirectory := high.scriptDirectory.or low.scriptDirectory
  keyspace := high.keyspace.or low.keyspace
  table := high.table.or low.table
  refresh := high.refresh.or low.refresh
  noRefresh := high.noRefresh || low.noRefresh
  verifyChecksums := high.verifyChecksums.or low.verifyChecksums
  timeoutSeconds := high.timeoutSeconds.or low.timeoutSeconds

/-- One option from the environment, unless it is given already. -/
def fillOne (environment : String → Option String) (options : GlobalOptions) (option : Opt) :
    Except Refusal GlobalOptions :=
  match option.key? with
  | none => .ok options
  | some key =>
    if options.has option then .ok options
    else match environment key.environmentName with
      | some word => options.set option word
      | none => .ok options

/-- The options with those that are not given taken from the environment. -/
def fill (environment : String → Option String) (options : GlobalOptions) :
    Except Refusal GlobalOptions :=
  Opt.globals.foldlM (fillOne environment) options

/-- What the options say about the database, if they say anything. -/
def databaseLayer (options : GlobalOptions) : Option DatabaseLayer :=
  let layer : DatabaseLayer := {
    backend := options.backend
    path := options.databasePath
    host := options.host
    port := options.port }
  if layer = {} then none else some layer

/-- The layer that the options make. Forbidding a refresh goes before asking for one. -/
def toLayer (options : GlobalOptions) : Layer where
  database := options.databaseLayer
  scriptDirectory := options.scriptDirectory
  keyspace := options.keyspace
  table := options.table
  refresh := if options.noRefresh then some false else options.refresh
  verifyChecksums := options.verifyChecksums
  timeoutSeconds := options.timeoutSeconds

end GlobalOptions

end SchemaMigration.CommandLine
