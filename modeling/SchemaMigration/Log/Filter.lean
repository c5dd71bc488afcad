import SchemaMigration.Identifier
import SchemaMigration.Log
import SchemaMigration.Text.Blank
import SchemaMigration.Text.Pieces

/-!
# Filters of log lines

A filter says which log lines are shown: directives of a level, each for the components whose target
begins with some text, and perhaps a text that a line has to contain.

* `Filter.parse` reads a filter and `Filter.admits` applies it.
-/

namespace SchemaMigration.Log

/-- How much a level matters; what matters more has a lower rank. -/
def Level.rank : Level → Nat
  | .warn => 2
  | .info => 3
  | .debug => 4
  | .trace => 5

/-- The rank that a word lets through, in letters of either case. -/
def rankOf? (word : String) : Option Nat :=
  match Name.fold word with
  | "off" => some 0
  | "error" => some 1
  | "warn" => some 2
  | "info" => some 3
  | "debug" => some 4
  | "trace" => some 5
  | _ => none

/-- The rank that lets everything through. -/
def everything : Nat := 5

/-- The name under which filters know a component. -/
def Component.target : Component → String
  | .command => "cqlmigrate::commands::common"
  | .connection => "cm_db::connect"
  | .database => "cm_db::duckdb"
  | .discovery => "cm_core::repository"
  | .bootstrap => "cm_migrate::bootstrap"
  | .executor => "cm_migrate::executor"
  | .ledger => "cm_migrate::ledger"
  | .migration => "cm_migrate::migrator"

/-- What is let through of the components whose target begins with a text. -/
structure Directive where
  target : List Char
  rank : Nat
  deriving DecidableEq, Repr

/-- Which lines are shown. -/
structure Filter where
  directives : List Directive
  /-- A text that each shown line contains. -/
  needle : List Char
  deriving DecidableEq, Repr

namespace Filter

/-- Reads a directive: a level, a target, or both with an equals sign between them. -/
def directive? (s : List Char) : Option Directive :=
  match Text.pieces '=' s with
  | [single] =>
    if single.isEmpty then none
    else match rankOf? (String.ofList single) with
      | some rank => some ⟨[], rank⟩
      | none => some ⟨single, everything⟩
  | [target, level] =>
    let level := Text.trim level
    if level.isEmpty then some ⟨target, everything⟩
    else (rankOf? (String.ofList level)).map fun rank => ⟨target, rank⟩
  | _ => none

/-- Reads a filter: directives with commas between them, and a text after a slash. What is no
directive does not count. -/
def parse (text : String) : Filter :=
  match Text.pieces '/' text.toList with
  | [front] => ⟨(Text.pieces ',' front).filterMap fun s => directive? (Text.trim s), []⟩
  | [front, needle] => ⟨(Text.pieces ',' front).filterMap fun s => directive? (Text.trim s), needle⟩
  | _ => ⟨[], []⟩

/-- The better of two directives for one target: the longer one, of two equally long the later. -/
def better (best : Option Directive) (d : Directive) : Option Directive :=
  match best with
  | some b => if b.target.length ≤ d.target.length then some d else some b
  | none => some d

/-- The rank up to which lines of a component are shown. Without any directive only errors are. -/
def rankFor (filter : Filter) (component : Component) : Nat :=
  if filter.directives.isEmpty then 1
  else
    let fitting := filter.directives.filter fun d => d.target.isPrefixOf component.target.toList
    ((fitting.foldl better none).map Directive.rank).getD 0

/-- Whether a line is shown. -/
def admits (filter : Filter) (line : Line) : Bool :=
  line.level.rank ≤ filter.rankFor line.component && Text.occursIn filter.needle line.text.toList

/-- The filter of a process: the one that the environment gives, else all lines of some weight, or
more of them if that is asked for. -/
def ofProcess (fromEnvironment : Option String) (verbose : Bool) : Filter :=
  match fromEnvironment with
  | some text => parse text
  | none => ⟨[⟨[], if verbose then 4 else 3⟩], []⟩

end Filter

end SchemaMigration.Log
