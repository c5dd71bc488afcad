import SchemaMigration.CommandLine.Help
import SchemaMigration.Log.Filter
import Std.Time.DateTime.Timestamp

/-!
# The program

Reads the command line, the environment and the files that they name, runs the command, and writes
what it printed and what became of the database file.
-/

namespace SchemaMigration.Main

/-- The values of the environment that options may come from. -/
def readEnvironment : IO (String → Option String) := do
  let pairs ← ConfigKey.all.mapM fun key => do
    return (key.environmentName, ← IO.getEnv key.environmentName)
  return fun name => (pairs.find? fun pair => pair.1 == name).bind (·.2)

/-- The files with what is at a path, and one level below it. -/
def load (files : Files) (path : String) : IO Files := do
  let full := (← IO.currentDir) / path
  if ← full.isDir then
    let mut result := files.write path .directory
    for entry in ← full.readDir do
      let name := path ++ "/" ++ entry.fileName
      if ← entry.path.isDir then result := result.write name .directory
      else result := result.write name (.file (← IO.FS.readBinFile entry.path))
    return result
  else if ← full.pathExists then return files.write path (.file (← IO.FS.readBinFile full))
  else return files

/-- The files with the directory above the end of a path. -/
def loadAbove (files : Files) (path : String) : IO Files := do
  let full := (← IO.currentDir) / path
  match full.parent with
  | some directory =>
    if ← directory.isDir then return files.write directory.toString .directory else return files
  | none => return files

/-- The files that a command needs. -/
def loadAll (options : CommandLine.GlobalOptions) : IO Files := do
  let here := (← IO.currentDir).components.filter (· ≠ "")
  let mut files := Files.empty here
  if let some path := options.configFile then files ← load files path
  match CommandLine.loadConfig files options with
  | .error _ => return files
  | .ok config =>
    files ← loadAbove files config.database.path
    files ← load files config.database.path
    load files config.scriptDirectory

/-- Writes the file at the end of a path if it has changed. -/
def store (before after : Files) (path : String) : IO Unit := do
  match after.read path, before.read path with
  | .ok bytes, .ok old => if bytes != old then IO.FS.writeBinFile path bytes
  | .ok bytes, .error _ => IO.FS.writeBinFile path bytes
  | .error _, _ => return ()

/-- Runs a command; the exit status. -/
def run (command : CommandLine.Command) : IO UInt32 := do
  let files ← loadAll command.options
  let now ← Std.Time.Timestamp.now
  let ran := command.run files now.toMillisecondsSinceUnixEpoch.val.toNat
  let filter := Log.Filter.ofProcess (← IO.getEnv "RUST_LOG") command.options.verbose
  for line in ran.logs.filter filter.admits do
    IO.eprintln line.render
  if let .ok config := CommandLine.loadConfig files command.options then
    store files ran.files config.database.path
  match ran.result with
  | .ok text => IO.print text; return 0
  | .error e => IO.eprintln e.report; return 1

end SchemaMigration.Main

/-- Reads the command line and does what it asks for. -/
def main (arguments : List String) : IO UInt32 := do
  let environment ← SchemaMigration.Main.readEnvironment
  match SchemaMigration.CommandLine.Command.parse environment arguments with
  | .ok command => SchemaMigration.Main.run command
  | .error refusal =>
    if refusal.isText then IO.println refusal.message; return 0
    else IO.eprintln refusal.message; return 2
