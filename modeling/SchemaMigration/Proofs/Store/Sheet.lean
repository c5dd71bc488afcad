import SchemaMigration.Proofs.Store.Tables

/-!
# Tables with named columns

A database that goes by the names in the text of a statement. An insertion stores each bound value
under the column that stands at its place in the text, and a selection answers with cells in the
order of its own columns, wherever they were stored.

* `Sheets.command?` reads the text of a statement.
* `Sheets.perform` is the effect and the answer of a statement, and `Sheets.session` the session.
* `Sheets.tokens_append_blank`: a blank cuts a text into two that are read each on its own.
* `Ledger.sheets_createTable`, `Ledger.sheets_insertRow`, `Ledger.sheets_selectRows`: what the
  statements of a ledger come to.
-/

namespace SchemaMigration

/-- A table: the names of its columns, and its rows, oldest first. A row has cells under names of
columns. -/
structure Sheet where
  columns : List String
  rows : List (List (String × Cell))

/-- The rows with the cells of some columns only, in the order of these. -/
def Sheet.read (sheet : Sheet) (columns : List String) : List Row :=
  sheet.rows.map fun row => columns.map fun column => (Store.look column row).getD .null

/-- Tables by name. -/
abbrev Sheets := List (String × Sheet)

namespace Sheets

/-! ## Reading statements -/

/-- Whether a character is a token of its own. -/
def isMark (c : Char) : Bool :=
  c == '(' || c == ')' || c == ',' || c == '?'

/-- The words and marks of a text, with empty words between them. -/
def words : List Char → List (List Char)
  | [] => [[]]
  | c :: cs =>
    if c = ' ' then [] :: words cs
    else if isMark c then [] :: [c] :: words cs
    else (words cs).modifyHead (c :: ·)

/-- The words and marks of a text. -/
def tokens (text : String) : List String :=
  ((words text.toList).filter fun word => !word.isEmpty).map String.ofList

/-- What a statement tells to do. -/
inductive Command where
  | create (table : String) (columns : List String)
  /-- The expressions stand for the columns at the same places. -/
  | insert (table : String) (columns : List String) (expressions : List (List String))
  | select (columns : List String) (table : String)
  deriving DecidableEq

/-- The first words of what stands between commas. -/
def names (tokens : List String) : List String :=
  (tokens.splitOn ",").filterMap List.head?

/-- The command in a text, if there is one. -/
def command? (text : String) : Option Command :=
  match tokens text with
  | "CREATE" :: "TABLE" :: table :: "(" :: rest => some (.create table (names rest.dropLast))
  | "INSERT" :: "INTO" :: table :: "(" :: rest =>
    match rest.dropWhile (· ≠ ")") with
    | ")" :: "VALUES" :: "(" :: values =>
      some (.insert table (names (rest.takeWhile (· ≠ ")"))) (values.dropLast.splitOn ","))
    | _ => none
  | "SELECT" :: rest =>
    match rest.dropWhile (· ≠ "FROM") with
    | ["FROM", table] => some (.select (names (rest.takeWhile (· ≠ "FROM"))) table)
    | _ => none
  | _ => none

/-! ## What they do -/

/-- The cell that keeps a bound value. -/
def cellOf : Value → Cell
  | .int n => .int n
  | .bigint n => .int n
  | .text s => .text s
  | .bool b => .bool b
  | .uuid id => .text id.text

/-- The cells for the expressions of an insertion. One with a placeholder takes the next value; for
any other one the database makes a cell of its own. -/
def bindCells (made : Cell) : List (List String) → List Value → Option (List Cell)
  | [], [] => some []
  | [], _ :: _ => none
  | expression :: expressions, values =>
    if expression.contains "?" then
      match values with
      | [] => none
      | value :: values => (bindCells made expressions values).map (cellOf value :: ·)
    else (bindCells made expressions values).map (made :: ·)

/-- An answer or a reason for failing, and the tables after it. -/
abbrev Outcome := Except String (List Row) × Sheets

variable (s : Sheets)

/-- Adds a table without rows. -/
def create (table : String) (columns : List String) : Outcome :=
  match Store.look table s with
  | some _ => (.error ("table " ++ table ++ " already exists"), s)
  | none => (.ok [], s ++ [(table, ⟨columns, []⟩)])

/-- Adds a row. What the database makes itself depends on the number of rows. -/
def insert (made : Nat → Cell) (table : String) (columns : List String)
    (expressions : List (List String)) (values : List Value) : Outcome :=
  match Store.look table s with
  | none => (.error ("table " ++ table ++ " does not exist"), s)
  | some sheet =>
    match bindCells (made sheet.rows.length) expressions values with
    | none => (.error "there are not as many values as placeholders", s)
    | some cells =>
      if columns.length = cells.length && columns.all (sheet.columns.contains ·) then
        let sheet := { sheet with rows := sheet.rows ++ [columns.zip cells] }
        (.ok [], Store.replace table sheet s)
      else (.error "the columns do not fit", s)

/-- Reads all rows, oldest first. -/
def select (columns : List String) (table : String) : Outcome :=
  match Store.look table s with
  | none => (.error ("table " ++ table ++ " does not exist"), s)
  | some sheet =>
    if columns.all (sheet.columns.contains ·) then (.ok (sheet.read columns), s)
    else (.error "the columns do not fit", s)

/-- What a statement does to the tables. -/
def perform (made : Nat → Cell) (statement : Statement) : Outcome :=
  match command? statement.text with
  | some (.create table columns) => s.create table columns
  | some (.insert table columns expressions) =>
    s.insert made table columns expressions statement.values
  | some (.select columns table) => s.select columns table
  | none => (.error "not understood", s)

/-- The session over tables with named columns, which answers at once. -/
def session (dialect : Dialect) (made : Nat → Cell) : Session Sheets where
  backend := "sheets"
  dialect := dialect
  send s statement :=
    let (answer, s) := s.perform made statement
    (⟨0, (answer.map Answer.ofRows).mapError (.execution statement.text)⟩, s)
  cancel := id
  close s := (none, s)

/-! ## Tokens of a text in parts -/

/-- Whether a character belongs to a word. -/
def isPlain (c : Char) : Bool :=
  c != ' ' && !isMark c

theorem words_ne_nil (cs : List Char) : words cs ≠ [] := by
  induction cs with
  | nil => simp [words]
  | cons c cs ih =>
      unfold words
      split
      · simp
      · split <;> simp [ih]

theorem words_append_blank (front back : List Char) :
    words (front ++ ' ' :: back) = words front ++ words back := by
  induction front with
  | nil => simp [words]
  | cons c cs ih =>
      rw [List.cons_append, words, words, ih]
      split
      · simp
      · split
        · simp
        · -- the character belongs to the first word, which is in front
          obtain ⟨word, rest, hwords⟩ := List.exists_cons_of_ne_nil (words_ne_nil cs)
          simp [hwords]

theorem words_of_plain {cs : List Char} (h : cs.all isPlain = true) : words cs = [cs] := by
  induction cs with
  | nil => rfl
  | cons c cs ih =>
      rw [List.all_cons, Bool.and_eq_true] at h
      have hplain : c ≠ ' ' ∧ isMark c = false := by simpa [isPlain] using h.1
      simp [words, hplain.1, hplain.2, ih h.2]

theorem tokens_append_blank (front back : String) :
    tokens (front ++ " " ++ back) = tokens front ++ tokens back := by
  have hwords := words_append_blank front.toList back.toList
  simp only [tokens, String.toList_append, List.append_assoc, ← List.map_append,
    ← List.filter_append, ← hwords]
  rfl

theorem tokens_of_plain {word : String} (hne : word ≠ "")
    (h : word.toList.all isPlain = true) : tokens word = [word] := by
  have hlist : word.toList ≠ [] := by simpa using hne
  simp [tokens, words_of_plain h, hlist]

end Sheets

namespace Ledger

variable (l : Ledger)

/-- The columns of the ledger. -/
def storedColumns (l : Ledger) : List String :=
  "id" :: "ver" :: "name" :: if l.checksums then ["checksum"] else []

/-- The columns that are read. -/
def readColumns (l : Ledger) : List String :=
  "ver" :: "name" :: if l.checksums then ["checksum"] else []

/-- The expression for the id of a row. -/
def idExpression (l : Ledger) : List String :=
  match l.dialect with
  | .cql => ["now", "(", ")"]
  | .duckdb => ["CAST", "(", "?", "AS", "UUID", ")"]

theorem isPlain_of_isLowerTail {c : Char} (h : Name.isLowerTail c = true) :
    Sheets.isPlain c = true := by
  have hne : ∀ d : Char, Name.isLowerTail d = false → c ≠ d := by
    rintro d hd rfl
    rw [hd] at h
    cases h
  simp [Sheets.isPlain, Sheets.isMark, hne ' ' (by decide), hne '(' (by decide),
    hne ')' (by decide), hne ',' (by decide), hne '?' (by decide)]

theorem tokens_qualified : Sheets.tokens l.qualified = [l.qualified] := by
  have hplain : ∀ {kind : NameKind} (name : Name kind), name.text.toList.all Sheets.isPlain := by
    intro kind name
    exact List.all_eq_true.mpr fun c hc => isPlain_of_isLowerTail (name.isLowerTail_of_mem hc)
  have hall : l.qualified.toList.all Sheets.isPlain = true := by
    have hpoint : Sheets.isPlain '.' = true := by decide
    simp only [qualified, String.toList_append, List.all_append, hplain, Bool.true_and,
      Bool.and_true]
    simpa using hpoint
  have hne : l.qualified ≠ "" := by
    intro hempty
    have hlist := congrArg String.toList hempty
    simp [qualified] at hlist
  exact Sheets.tokens_of_plain hne hall

theorem command?_createTable :
    Sheets.command? l.createTable.text = some (.create l.qualified l.storedColumns) := by
  have htext : l.createTable.text =
      "CREATE TABLE" ++ " " ++ (l.qualified ++ " " ++ ("(" ++ l.columnTypes ++ ")")) := by
    rw [← String.toList_inj]
    simp [createTable, Statement.execute]
  have htokens := congrArg Sheets.tokens htext
  rw [Sheets.tokens_append_blank, Sheets.tokens_append_blank, tokens_qualified] at htokens
  unfold Sheets.command?
  rw [htokens]
  unfold columnTypes storedColumns
  cases l.dialect <;> cases l.checksums <;> rfl

theorem command?_selectRows :
    Sheets.command? l.selectRows.text = some (.select l.readColumns l.qualified) := by
  have htext : l.selectRows.text =
      ("SELECT " ++ l.columns ++ " FROM") ++ " " ++ l.qualified := by
    rw [← String.toList_inj]
    simp [selectRows, Statement.query]
  have htokens := congrArg Sheets.tokens htext
  rw [Sheets.tokens_append_blank, tokens_qualified] at htokens
  unfold Sheets.command?
  rw [htokens]
  unfold columns readColumns
  cases l.checksums <;> rfl

/-- The tokens of an insertion behind the name of the table: the columns, and an expression for
each of them. -/
def insertionTokens (l : Ledger) : List String :=
  "(" :: l.storedColumns.intersperse "," ++ ")" :: "VALUES" :: "(" ::
    (l.idExpression ++ l.readColumns.flatMap fun _ => [",", "?"]) ++ [")"]

theorem tokens_insertRow (id : Uuid) (version : Int) (script : Script) :
    Sheets.tokens (l.insertRow id version script).text =
      "INSERT" :: "INTO" :: l.qualified :: l.insertionTokens := by
  have htext : ∀ idValue, l.insertText idValue = "INSERT INTO" ++ " " ++ (l.qualified ++ " " ++
      ("(id, " ++ l.columns ++ ") VALUES (" ++ idValue ++ ", " ++ l.placeholders ++ ")")) := by
    intro idValue
    calc l.insertText idValue = ("INSERT INTO" ++ " ") ++ l.qualified ++ (" " ++ "(id, ")
          ++ l.columns ++ ") VALUES (" ++ idValue ++ ", " ++ l.placeholders ++ ")" := rfl
      _ = _ := by simp only [String.append_assoc]
  have htokens : ∀ idValue, Sheets.tokens (l.insertText idValue) =
      "INSERT" :: "INTO" :: l.qualified :: Sheets.tokens ("(id, " ++ l.columns ++ ") VALUES ("
        ++ idValue ++ ", " ++ l.placeholders ++ ")") := by
    intro idValue
    rw [htext, Sheets.tokens_append_blank, Sheets.tokens_append_blank, tokens_qualified]
    rfl
  -- what is left has no name of the ledger in it
  unfold insertRow
  cases hdialect : l.dialect <;>
    simp only [Statement.execute, htokens, List.cons.injEq, true_and] <;>
    unfold columns placeholders insertionTokens storedColumns readColumns idExpression <;>
    rw [hdialect] <;> cases l.checksums <;> decide +kernel

/-- The id has an expression of its own, and each column that is read has a placeholder. -/
theorem command?_insertRow (id : Uuid) (version : Int) (script : Script) :
    Sheets.command? (l.insertRow id version script).text = some (.insert l.qualified
      l.storedColumns (l.idExpression :: l.readColumns.map fun _ => ["?"])) := by
  unfold Sheets.command?
  rw [tokens_insertRow]
  unfold insertionTokens storedColumns readColumns idExpression
  cases l.dialect <;> cases l.checksums <;> rfl

/-! ## What the statements of a ledger come to -/

/-- The cells of a script's row that are read. -/
def scriptCells (l : Ledger) (script : Script) : Row :=
  .int script.version :: .text script.name ::
    if l.checksums then [.text script.checksum] else []

/-- The cell with the id of a row. -/
def idCell (l : Ledger) (made : Cell) (id : Uuid) : Cell :=
  match l.dialect with
  | .cql => made
  | .duckdb => .text id.text

/-- The row of a script as it is stored. -/
def sheetRow (l : Ledger) (made : Cell) (id : Uuid) (script : Script) : List (String × Cell) :=
  l.storedColumns.zip (l.idCell made id :: l.scriptCells script)

theorem bindCells_insertRow (made : Cell) (id : Uuid) (script : Script) :
    Sheets.bindCells made (l.idExpression :: l.readColumns.map fun _ => ["?"])
      (l.insertRow id script.version script).values =
        some (l.idCell made id :: l.scriptCells script) := by
  unfold idExpression readColumns insertRow rowValues idCell scriptCells
  cases l.dialect <;> cases l.checksums <;> rfl

variable {l} {s : Sheets} (made : Nat → Cell) (timeout : Nat)

theorem sheets_createTable (h : Store.look l.qualified s = none) :
    s.perform made (l.createTable.withTimeout timeout) =
      (.ok [], s ++ [(l.qualified, ⟨l.storedColumns, []⟩)]) := by
  simp [Sheets.perform, Statement.withTimeout, command?_createTable, Sheets.create, h]

theorem sheets_insertRow {sheet : Sheet} (h : Store.look l.qualified s = some sheet)
    (hcolumns : sheet.columns = l.storedColumns) (id : Uuid) (script : Script) :
    s.perform made ((l.insertRow id script.version script).withTimeout timeout) =
      (.ok [], Store.replace l.qualified { sheet with
        rows := sheet.rows ++ [l.sheetRow (made sheet.rows.length) id script] } s) := by
  have hlength : l.storedColumns.length = (l.idCell (made sheet.rows.length) id ::
      l.scriptCells script).length := by
    unfold storedColumns scriptCells
    cases l.checksums <;> rfl
  have hcells := bindCells_insertRow l (made sheet.rows.length) id script
  have hall : l.storedColumns.all (l.storedColumns.contains ·) = true :=
    List.all_eq_true.mpr fun column hcolumn => List.contains_iff_mem.mpr hcolumn
  simp only [Sheets.perform, Statement.withTimeout, command?_insertRow, Sheets.insert, h, hcells,
    hlength, hcolumns, hall, decide_true, Bool.and_self, if_true, sheetRow]

theorem sheets_selectRows {sheet : Sheet} (h : Store.look l.qualified s = some sheet)
    (hcolumns : sheet.columns = l.storedColumns) :
    s.perform made (l.selectRows.withTimeout timeout) = (.ok (sheet.read l.readColumns), s) := by
  have hread : l.readColumns.all (l.storedColumns.contains ·) = true := by
    unfold readColumns storedColumns
    cases l.checksums <;> rfl
  simp only [Sheets.perform, Statement.withTimeout, command?_selectRows, Sheets.select, h, hcolumns,
    hread, if_true]

/-- The cells are read as they were stored. -/
theorem read_sheetRow (l : Ledger) (made : Cell) (id : Uuid) (script : Script) :
    (l.readColumns.map fun column =>
      (Store.look column (l.sheetRow made id script)).getD .null) = l.scriptCells script := by
  unfold sheetRow readColumns storedColumns scriptCells
  cases l.checksums <;> rfl

end Ledger

end SchemaMigration
