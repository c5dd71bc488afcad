import SchemaMigration.Session
import SchemaMigration.Sql.Parsing
import SchemaMigration.Sql.Plan

/-!
# The embedded database as a session

A text may hold several statements, which all run; the values belong to the last one, and so do the
rows. Each statement has its effect at once or not at all.

* `Engine.run` is the effect and the answer of a text of statements.
* `Engine.session` is the session over a database, where a keyspace is a schema.
-/

namespace SchemaMigration.Sql

/-- A database that is open. -/
structure Engine where
  /-- The name of the database itself, which statements may use. -/
  catalogue : String
  /-- Whether nothing may be changed. -/
  readOnly : Bool

/-- What becomes of a text of statements. -/
structure Outcome where
  result : Except Fault (List Record)
  database : Database
  /-- The number of rows that were looked at. -/
  cost : Nat

namespace Engine

/-- The greatest number of rows that a statement looks at before it counts as endless. -/
def patience : Nat := tenTo 7

/-- Refuses a statement that would change what may not be changed. -/
def checkAccess (engine : Engine) (command : Command) : Except Fault Unit :=
  if engine.readOnly && command.isWrite then
    .error (.invalidInput "Cannot execute the statement on a database in read-only mode!")
  else .ok ()

/-- Looks a statement up. -/
def prepare (engine : Engine) (db : Database) (values : List (Datum × SqlType))
    (statement : Prepared) : Except Fault Plan :=
  Context.plan ⟨engine.catalogue, db, values⟩ statement.command

/-- Runs a statement that has been looked up. -/
def perform (engine : Engine) (db : Database) (statement : Prepared) (plan : Plan) : Outcome :=
  if patience < plan.cost then ⟨.error .interrupted, db, plan.cost⟩
  else
    match engine.checkAccess statement.command >>= fun _ => plan.run db with
    | .ok (changed, rows) => ⟨.ok rows, changed, plan.cost⟩
    | .error fault => ⟨.error fault, db, plan.cost⟩

/-- Runs a statement that is not the last one of its text. It has no values. -/
def runEarlier (engine : Engine) (db : Database) (statement : Prepared) : Outcome :=
  match engine.prepare db [] statement with
  | .error fault => ⟨.error fault, db, 0⟩
  | .ok plan =>
    if statement.placeholders = 0 then engine.perform db statement plan
    else
      ⟨.error (.invalidInput "Values were not provided for the prepared statement parameters"),
        db, 0⟩

/-- Runs the last statement of a text with its values. They are counted when the statement has been
looked up. -/
def runLast (engine : Engine) (db : Database) (values : List Value) (statement : Prepared) :
    Outcome :=
  match engine.prepare db (values.map fun v => (.ofValue v, .ofValue v)) statement with
  | .error fault => ⟨.error fault, db, 0⟩
  | .ok plan =>
    if values.length = statement.placeholders then engine.perform db statement plan
    else ⟨.error (.parameterCount values.length statement.placeholders), db, 0⟩

/-- Runs statements in order until one has a fault. -/
def runAll (engine : Engine) (values : List Value) : Database → List Prepared → Outcome
  | db, [] => ⟨.error .nothing, db, 0⟩
  | db, [statement] => engine.runLast db values statement
  | db, statement :: rest =>
    let first := engine.runEarlier db statement
    match first.result with
    | .error _ => first
    | .ok _ =>
      let others := runAll engine values first.database rest
      { others with cost := first.cost + others.cost }

/-- The place in bytes of the first character without a code, if there is one. -/
def nulPosition? (text : String) : Option Nat :=
  let front := text.toList.takeWhile (· != '\x00')
  if front.length < text.length then some (String.ofList front).utf8ByteSize else none

/-- Runs a text of statements. Nothing runs if any part of it is no statement. -/
def run (engine : Engine) (db : Database) (text : String) (values : List Value) : Outcome :=
  match nulPosition? text with
  | some position => ⟨.error (.containsNul position), db, 0⟩
  | none =>
    match Command.parseAll? text with
    | some statements => engine.runAll values db statements
    | none => ⟨.error (.parser "syntax error"), db, 0⟩

/-- A session's state: the database until the session is closed. -/
structure State where
  database : Database
  closed : Bool := false

/-- The milliseconds that looking at rows takes. Every statement takes a moment. -/
def elapsed (cost : Nat) : Nat :=
  1 + cost / tenTo 6

/-- The answer to a statement that was applied. Rows are read only if they are asked for. -/
def answerOf (kind : StatementKind) (rows : List Record) : Answer :=
  match kind with
  | .query => .ofRows (rows.map fun row => row.map Datum.toCell)
  | .execute => .ofRows []

/-- Answers a statement, unless the session is closed. -/
def send (engine : Engine) (state : State) (statement : Statement) : Reply × State :=
  if state.closed then (⟨0, .error .closed⟩, state)
  else
    let outcome := engine.run state.database statement.text statement.values
    let answer := match outcome.result with
      | .ok rows => .ok (answerOf statement.kind rows)
      | .error fault => .error (.execution statement.text fault.message)
    (⟨elapsed outcome.cost, answer⟩, { state with database := outcome.database })

/-- The session over a database. Closing it twice does no harm. -/
def session (engine : Engine) : Session State where
  backend := "duckdb"
  dialect := .duckdb
  send := engine.send
  cancel state := state
  close state := (none, { state with closed := true })

end Engine

end SchemaMigration.Sql
