import SchemaMigration.Session
import SchemaMigration.Text.Numeral
import SchemaMigration.Text.Pieces

/-!
# A store in memory

A session over keyspaces with tables of ledger rows, which understands statements by their first
words. What it does not understand is applied and changes nothing.

* `Store.perform` is the effect and the answer of a statement.
* `Store.session` is the session.
-/

namespace SchemaMigration

/-- A row of a stored table. -/
structure StoredRow where
  version : Int
  name : String
  checksum : Option String
  deriving DecidableEq, Repr

/-- A stored table: whether it has a column for checksums, and its rows, oldest first. -/
structure StoredTable where
  hasChecksum : Bool
  rows : List StoredRow
  deriving DecidableEq, Repr

/-- The tables of a keyspace by name. -/
abbrev StoredKeyspace := List (String × StoredTable)

/-- Keyspaces by name. -/
structure Store where
  keyspaces : List (String × StoredKeyspace)
  deriving DecidableEq, Repr

namespace Store

/-- A store without keyspaces. -/
def empty : Store := ⟨[]⟩

/-- What a list of pairs says about a key. -/
def look {α : Type} (key : String) (list : List (String × α)) : Option α :=
  (list.find? fun entry => entry.1 == key).map (·.2)

/-- A list of pairs without a key. -/
def erase {α : Type} (key : String) (list : List (String × α)) : List (String × α) :=
  list.filter fun entry => entry.1 != key

/-- A list of pairs with the value of a key replaced. -/
def replace {α : Type} (key : String) (value : α) (list : List (String × α)) :
    List (String × α) :=
  list.map fun entry => if entry.1 == key then (key, value) else entry

/-- The tables of a keyspace, if it exists. -/
def keyspace? (s : Store) (keyspace : String) : Option StoredKeyspace :=
  look keyspace s.keyspaces

/-- A table, if it exists. -/
def table? (s : Store) (keyspace table : String) : Option StoredTable :=
  (s.keyspace? keyspace).bind (look table)

/-- The store with the tables of a keyspace replaced. -/
def setKeyspace (s : Store) (keyspace : String) (tables : StoredKeyspace) : Store :=
  ⟨replace keyspace tables s.keyspaces⟩

/-- A word of a statement, counted from zero. -/
def word (text : String) (index : Nat) : String :=
  String.ofList (((Text.pieces ' ' text.toList)[index]?).getD [])

/-- The last word of a statement. -/
def lastWord (text : String) : String :=
  String.ofList ((Text.pieces ' ' text.toList).getLast?.getD [])

/-- The keyspace and the table in a name. A name without a point names no keyspace. -/
def splitName (name : String) : String × String :=
  let cs := name.toList
  let front := cs.takeWhile (· != '.')
  match cs.drop front.length with
  | [] => ("", name)
  | _ :: table => (String.ofList front, String.ofList table)

/-- What a statement makes of a store: an answer or a reason for failing, and the store. -/
structure Outcome where
  answer : Except String Answer
  store : Store

/-- A failure, which has no effect. -/
def failing (s : Store) (reason : String) : Outcome :=
  ⟨.error reason, s⟩

/-- An answer with rows, without an effect. -/
def answering (s : Store) (rows : List Row) : Outcome :=
  ⟨.ok (.ofRows rows), s⟩

/-- An effect, answered without rows. -/
def becoming (s : Store) : Outcome :=
  ⟨.ok (.ofRows []), s⟩

/-- The failure about a keyspace that is not there. -/
def noKeyspace (s : Store) (name : String) : Outcome :=
  s.failing ("keyspace " ++ name ++ " does not exist")

/-- The failure about a table that is not there. -/
def noTable (s : Store) (name : String) : Outcome :=
  s.failing ("table " ++ name ++ " does not exist")

/-- The failure about a column that is not there. -/
def noChecksum (s : Store) : Outcome :=
  s.failing "column checksum does not exist"

/-- Lists the tables of a keyspace by name. -/
def listTables (s : Store) : List Value → Outcome
  | .text keyspace :: _ =>
    let names := ((s.keyspace? keyspace).getD []).map (·.1)
    s.answering ((names.mergeSort fun a b => a ≤ b).map fun name => [.text name])
  | _ => s.answering []

/-- Creates a keyspace. -/
def createKeyspace (s : Store) (name : String) : Outcome :=
  match s.keyspace? name with
  | some _ => s.failing ("keyspace " ++ name ++ " already exists")
  | none => becoming ⟨s.keyspaces ++ [(name, [])]⟩

/-- Drops a keyspace with its tables. -/
def dropKeyspace (s : Store) (name : String) : Outcome :=
  match s.keyspace? name with
  | some _ => becoming ⟨erase name s.keyspaces⟩
  | none => s.noKeyspace name

/-- Creates a table without rows. -/
def createTable (s : Store) (name : String) (hasChecksum : Bool) : Outcome :=
  let (keyspace, table) := splitName name
  match s.keyspace? keyspace with
  | none => s.noKeyspace keyspace
  | some tables =>
    match look table tables with
    | some _ => s.failing ("table " ++ name ++ " already exists")
    | none => becoming (s.setKeyspace keyspace (tables ++ [(table, ⟨hasChecksum, []⟩)]))

/-- Drops a table. -/
def dropTable (s : Store) (name : String) : Outcome :=
  let (keyspace, table) := splitName name
  match s.keyspace? keyspace with
  | none => s.noTable name
  | some tables =>
    match look table tables with
    | none => s.noTable name
    | some _ => becoming (s.setKeyspace keyspace (erase table tables))

/-- The cell of an optional text. -/
def textCell : Option String → Cell
  | some s => .text s
  | none => .null

/-- A row as it is read, with or without its checksum. -/
def StoredRow.cells (checksum : Bool) (row : StoredRow) : Row :=
  [.int row.version, .text row.name] ++ if checksum then [textCell row.checksum] else []

/-- Reads a table, newest row first. -/
def selectRows (s : Store) (name : String) (checksum : Bool) : Outcome :=
  let (keyspace, table) := splitName name
  match s.table? keyspace table with
  | none => s.noTable name
  | some t =>
    if checksum && !t.hasChecksum then s.noChecksum
    else s.answering (t.rows.reverse.map (StoredRow.cells checksum))

/-- Whether a value is an id. -/
def isId : Value → Bool
  | .uuid _ => true
  | _ => false

/-- The row that bound values describe, apart from ids. -/
def rowOf : List Value → StoredRow
  | .int version :: .text name :: .text checksum :: _ => ⟨version, name, some checksum⟩
  | .int version :: .text name :: _ => ⟨version, name, none⟩
  | .int version :: _ => ⟨version, "", none⟩
  | _ => ⟨0, "", none⟩

/-- Adds a row to a table. -/
def insertRow (s : Store) (name : String) (values : List Value) : Outcome :=
  let (keyspace, table) := splitName name
  match s.keyspace? keyspace with
  | none => s.noTable name
  | some tables =>
    match look table tables with
    | none => s.noTable name
    | some t =>
      let data := values.filter fun v => !isId v
      if data.length = 3 && !t.hasChecksum then s.noChecksum
      else
        let t := { t with rows := t.rows ++ [rowOf data] }
        becoming (s.setKeyspace keyspace (replace table t tables))

/-- Whether a text starts with some words. -/
def startsWith (text words : String) : Bool :=
  (Text.strip? words.toList text.toList).isSome

/-- What a statement does to a store. -/
def perform (s : Store) (statement : Statement) : Outcome :=
  let text := statement.text
  let starts := startsWith text
  if starts "SELECT table_name FROM " then s.listTables statement.values
  else if starts "CREATE KEYSPACE " || starts "CREATE SCHEMA " then s.createKeyspace (word text 2)
  else if starts "DROP KEYSPACE " || starts "DROP SCHEMA " then s.dropKeyspace (word text 2)
  else if starts "CREATE TABLE " then
    s.createTable (word text 2) (Text.occursIn "checksum".toList text.toList)
  else if starts "DROP TABLE " then s.dropTable (word text 2)
  else if starts "SELECT ver, name, checksum FROM " then s.selectRows (lastWord text) true
  else if starts "SELECT ver, name FROM " then s.selectRows (lastWord text) false
  else if starts "INSERT INTO " && !statement.values.isEmpty then
    s.insertRow (word text 2) statement.values
  else if starts "FAIL " then
    s.failing (String.ofList (text.toList.drop "FAIL ".length))
  else if text = "NOT APPLIED" then ⟨.ok .notApplied, s⟩
  else s.becoming

/-- How long a statement takes: nothing, unless its text tells to sleep. -/
def delay (text : String) : Nat :=
  match Text.strip? "SLEEP ".toList text.toList with
  | some digits => (Text.ofDigits? 10 digits).getD 0
  | none => 0

/-- The reply to a statement. -/
def send (s : Store) (statement : Statement) : Reply × Store :=
  let outcome := s.perform statement
  (⟨delay statement.text, outcome.answer.mapError (.execution statement.text)⟩, outcome.store)

/-- The session over a store. Closing it does nothing. -/
def session (dialect : Dialect) : Session Store where
  backend := "store"
  dialect := dialect
  send := send
  cancel := id
  close s := (none, s)

end Store

end SchemaMigration
