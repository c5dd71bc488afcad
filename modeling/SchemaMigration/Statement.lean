import SchemaMigration.Binary64
import SchemaMigration.Text.Quoted

/-!
# Statements and their answers

A statement is text with values for its placeholders. Data always travels as values; only checked
names are spliced into text. An answer says whether the statement was applied, and brings rows of
cells.
-/

namespace SchemaMigration

/-- A universally unique identifier, as its two halves. -/
structure Uuid where
  high : UInt64
  low : UInt64
  deriving DecidableEq, Repr

namespace Uuid

/-- The identifier with no bit set. -/
def nil : Uuid := ⟨0, 0⟩

/-- The four bits that say how the identifier was made. -/
def version (id : Uuid) : Nat :=
  id.high.toNat / twoTo 12 % 16

/-- The identifier of the time-ordered kind for a moment in milliseconds and a serial number.
Identifiers of later moments are greater, and so are those of later serial numbers. -/
def timeOrdered (milliseconds serial : Nat) : Uuid where
  high := UInt64.ofNat (milliseconds % twoTo 48 * twoTo 16 + 7 * twoTo 12)
  low := UInt64.ofNat (twoTo 63 + serial % twoTo 62)

/-- The hexadecimal digits of a word, `n` bytes of it. -/
def hexBytes (word : Nat) : Nat → List Char
  | 0 => []
  | n + 1 => hexBytes (word / 256) n ++ Text.hexByte (UInt8.ofNat word)

/-- The usual text of an identifier: lowercase digits in five groups. -/
def text (id : Uuid) : String :=
  let h := id.high.toNat
  let l := id.low.toNat
  String.ofList (hexBytes (h / twoTo 32) 4 ++ '-' :: hexBytes (h / twoTo 16) 2 ++ '-' :: hexBytes h 2
    ++ '-' :: hexBytes (l / twoTo 48) 2 ++ '-' :: hexBytes l 6)

end Uuid

/-- A value bound to a placeholder. -/
inductive Value where
  | int (value : Int)
  | bigint (value : Int)
  | text (value : String)
  | bool (value : Bool)
  | uuid (value : Uuid)
  deriving DecidableEq, Repr

/-- Whether a statement asks for rows. -/
inductive StatementKind where
  /-- The rows are read. -/
  | query
  /-- Rows, if there are any, are not read. -/
  | execute
  deriving DecidableEq, Repr

/-- A statement with its values. -/
structure Statement where
  text : String
  kind : StatementKind
  values : List Value := []
  /-- How many milliseconds it may take, if that is limited. -/
  timeout : Option Nat := none
  deriving DecidableEq, Repr

namespace Statement

/-- A statement whose rows are read. -/
def query (text : String) (values : List Value) : Statement :=
  { text := text, kind := .query, values := values }

/-- A statement whose rows are not read. -/
def execute (text : String) (values : List Value) : Statement :=
  { text := text, kind := .execute, values := values }

/-- The statement with a limit in milliseconds. -/
def withTimeout (s : Statement) (milliseconds : Nat) : Statement :=
  { s with timeout := some milliseconds }

end Statement

/-- The value of a column in a row. -/
inductive Cell where
  | null
  | int (value : Int)
  | float (value : Binary64)
  | text (value : String)
  | bool (value : Bool)
  deriving DecidableEq, Repr

/-- A cell as messages show it. -/
def Cell.show : Cell → String
  | .null => "Null"
  | .int n => "Int(" ++ Text.decimalInt n ++ ")"
  | .float x => "Float(" ++ x.toText Binary64.cellLayout ++ ")"
  | .text s => "Text(" ++ Text.quoted s ++ ")"
  | .bool b => if b then "Bool(true)" else "Bool(false)"

/-- A row of cells. -/
abbrev Row := List Cell

namespace Row

/-- The integer in a column, if there is one. -/
def int? (row : Row) (column : Nat) : Option Int :=
  match row[column]? with
  | some (.int n) => some n
  | _ => none

/-- The text in a column, if there is one. -/
def text? (row : Row) (column : Nat) : Option String :=
  match row[column]? with
  | some (.text s) => some s
  | _ => none

/-- What a column holds, as messages show it. -/
def showColumn (row : Row) (column : Nat) : String :=
  match row[column]? with
  | some cell => "Some(" ++ cell.show ++ ")"
  | none => "None"

end Row

/-- The answer to a statement. -/
structure Answer where
  applied : Bool
  rows : List Row
  deriving DecidableEq, Repr

namespace Answer

/-- The answer to a statement that was applied. -/
def ofRows (rows : List Row) : Answer := ⟨true, rows⟩

/-- The answer to a statement that was accepted but not applied. -/
def notApplied : Answer := ⟨false, []⟩

end Answer

end SchemaMigration
