import SchemaMigration.CommandLine.Running

/-!
# What the program tells its user

The help text, the version, and errors as they are shown on a terminal.
-/

namespace SchemaMigration.CommandLine

/-- What an option is for. -/
def Opt.summary : Opt → String
  | .verbose => "Enable verbose output"
  | .configFile => "YAML config file"
  | .backend => "Database backend (duckdb or cassandra)"
  | .databasePath => "DuckDB database file, or :memory:"
  | .host => "Cassandra contact point host"
  | .port => "Cassandra contact point port"
  | .scriptDirectory => "Directory holding V###__*.cql scripts"
  | .keyspace => "Keyspace to migrate"
  | .table => "Ledger table recording applied scripts"
  | .refresh => "Drop and recreate the keyspace before migrating (--refresh=false to disable)"
  | .noRefresh => "Never refresh, even if the config file or environment asks for it"
  | .verifyChecksums => "Record script checksums and fail if an applied script was edited"
  | .timeout => "Per-statement timeout in seconds"
  | .output => "Output format (table or json)"
  | .help => "Print help"
  | .version => "Print version"

/-- An option with its letter and its value, as the help shows it. -/
def Opt.spelling (option : Opt) : String :=
  let letter := match option.letter? with
    | some c => "-" ++ c.toString ++ ", "
    | none => "    "
  let value := match option.arity with
    | .flag => ""
    | .one => " <VALUE>"
    | .switch => "[=<VALUE>]"
  letter ++ "--" ++ option.name ++ value

/-- The options that a part knows, one to a line. -/
def Part.optionLines (part : Part) : List String :=
  part.known.map fun option =>
    "  " ++ option.spelling ++ String.ofList (List.replicate (34 - option.spelling.length) ' ')
      ++ option.summary

/-- The help text. -/
def helpText : String :=
  "\n".intercalate ([
    "Apply versioned CQL scripts to a keyspace exactly once",
    "",
    "Usage: cqlmigrate [OPTIONS] <COMMAND>",
    "",
    "Commands:",
    "  migrate  Apply pending scripts to the keyspace",
    "  status   Show applied and pending scripts without changing anything",
    "  help     Print this message",
    "",
    "Options:"] ++ Part.front.optionLines ++ ["  " ++ Opt.output.spelling
      ++ "             " ++ Opt.output.summary ++ " (after the command)"])

/-- The version of the program. -/
def versionText : String :=
  "cqlmigrate 0.1.0"

/-- A refusal in words. -/
def Refusal.message : Refusal → String
  | .help | .nothingGiven => helpText
  | .version => versionText
  | .missingCommand => "error: a subcommand is required but one was not provided"
  | .unknownCommand word => "error: unrecognized subcommand '" ++ word ++ "'"
  | .unknownArgument word => "error: unexpected argument '" ++ word ++ "' found"
  | .missingValue option => "error: a value is required for '--" ++ option.name ++ "'"
  | .invalidValue option value | .malformedValue option value =>
    "error: invalid value '" ++ value ++ "' for '--" ++ option.name ++ "'"
  | .unexpectedValue option value =>
    "error: unexpected value '" ++ value ++ "' for '--" ++ option.name ++ "'"
  | .repeated option => "error: the argument '--" ++ option.name ++ "' cannot be used multiple times"

/-- Whether a refusal answers what was asked for. -/
def Refusal.isText : Refusal → Bool
  | .help | .version => true
  | _ => false

/-- A text whose later lines are indented. -/
def hanging (indent : Nat) (s : String) : String :=
  String.ofList (s.toList.flatMap fun c =>
    if c = '\n' then c :: List.replicate indent ' ' else [c])

/-- The causes of an error, one below the other. Several are counted. -/
def causeLines : List String → List String
  | [single] => ["    " ++ hanging 4 single]
  | causes => causes.zipIdx.map fun (cause, i) =>
    let number := Text.decimal i
    String.ofList (List.replicate (5 - number.length) ' ') ++ number ++ ": " ++ hanging 7 cause

/-- An error with its causes. -/
def CommandError.report (e : CommandError) : String :=
  "\n".intercalate (["Error: " ++ e.context, "", "Caused by:"] ++ causeLines e.causes)

end SchemaMigration.CommandLine
