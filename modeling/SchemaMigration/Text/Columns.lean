import SchemaMigration.Text.Blank

/-!
# Tables in plain text

A header, a line of dashes and one line per row, in columns that are two spaces apart.

* `widths` gives each column the size of its largest cell, in UTF-8 bytes, which is never less than
  its number of characters.
* `line` fills every cell up to its column's width and drops the blanks at the end of the line.
* `table` joins the lines.
-/

namespace SchemaMigration.Text

/-- Each column's width once a row is taken into account; cells beyond the columns are ignored. -/
def widen : List Nat → List String → List Nat
  | w :: ws, cell :: cells => max w cell.utf8ByteSize :: widen ws cells
  | ws, _ => ws

/-- The widths of the columns under the headers. -/
def widths (headers : List String) (rows : List (List String)) : List Nat :=
  rows.foldl widen (headers.map String.utf8ByteSize)

/-- A cell filled up with spaces to a number of characters. -/
def fill (width : Nat) (cell : List Char) : List Char :=
  cell ++ List.replicate (width - cell.length) ' '

/-- The cells of a line, filled up to their columns' widths and two spaces apart. -/
def joinCells (ws : List Nat) (cells : List String) : List Char :=
  [' ', ' '].intercalate ((cells.zip ws).map fun (cell, w) => fill w cell.toList)

/-- A line of a table, without blanks at its end. -/
def line (ws : List Nat) (cells : List String) : String :=
  String.ofList (trimEnd (joinCells ws cells))

/-- The line of dashes under the headers. -/
def rule (ws : List Nat) : String :=
  String.ofList ([' ', ' '].intercalate (ws.map fun w => List.replicate w '-'))

/-- The lines of a table. -/
def tableLines (headers : List String) (rows : List (List String)) : List String :=
  let ws := widths headers rows
  line ws headers :: rule ws :: rows.map (line ws)

/-- A table: its lines, joined by line breaks. -/
def table (headers : List String) (rows : List (List String)) : String :=
  "\n".intercalate (tableLines headers rows)

end SchemaMigration.Text
