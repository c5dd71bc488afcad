import SchemaMigration.Sql.Database
import SchemaMigration.Sql.Term

/-!
# Plans

A statement with everything looked up in a database, ready to run.

* `Context.plan` looks a statement up; what it finds missing is a fault before anything runs.
* `Plan.run` is the effect of a plan on the database, and its rows.
-/

namespace SchemaMigration.Sql

/-- What a statement is looked up in. -/
structure Context where
  /-- The name of the database itself. -/
  catalogue : String
  database : Database
  /-- The bound values with their types. -/
  values : List (Datum × SqlType)

/-- Where the rows of a source come from. -/
inductive RowSource where
  | stored (rows : List Record)
  /-- Rows of one integer each, counted up from a first one. -/
  | counted (first : Int) (count : Nat)

namespace RowSource

/-- The number of rows. -/
def count : RowSource → Nat
  | stored rows => rows.length
  | counted _ n => n

/-- The rows themselves. -/
def rows : RowSource → List Record
  | stored rs => rs
  | counted first n => (List.range n).map fun (i : Nat) => [.int (first + i)]

/-- All combinations of a row of each source. -/
def combine : List RowSource → List Record
  | [] => [[]]
  | source :: rest => source.rows.flatMap fun row => (combine rest).map (row ++ ·)

/-- The number of combinations. -/
def combinations (sources : List RowSource) : Nat :=
  sources.foldl (fun n s => n * s.count) 1

end RowSource

/-- One key of an order, looked up. -/
structure SortKey where
  term : Term
  descending : Bool
  nullsFirst : Bool

/-- A query with everything looked up. -/
structure QueryPlan where
  sources : List RowSource
  condition : Option Term
  /-- The columns of the answer by their names. -/
  items : List (String × Typed)
  order : List SortKey
  limit : Option Nat
  offset : Nat

/-! ## Looking up -/

/-- The name of the schema that describes the others. -/
def informationSchema : String := "information_schema"

/-- A table that is made up of texts. -/
def textTable (name : String) (columns : List String) (rows : List (List String)) : Table where
  name := name
  columns := columns.map fun c => ⟨c, .varchar, false⟩
  keys := []
  rows := rows.map fun row => row.map .text

namespace Context

/-- The tables that describe the database. -/
def information? (context : Context) (name : String) : Option Table :=
  match Name.fold name with
  | "tables" =>
    some (textTable "tables" ["table_catalog", "table_schema", "table_name", "table_type"]
      (context.database.allTables.map fun (schema, table) =>
        [context.catalogue, schema, table.name, "BASE TABLE"]))
  | "schemata" =>
    some (textTable "schemata" ["catalog_name", "schema_name"]
      (context.database.schemas.map fun schema => [context.catalogue, schema.name]))
  | _ => none

/-- Whether a name names a whole database. -/
def namesDatabase (context : Context) (name : String) : Bool :=
  [context.catalogue, "system", "temp"].any (sameName name)

/-- The schema and the table that a path names. A single word in front of a table may name a schema
or a whole database, but not both. -/
def locate (context : Context) : List String → Except Fault (String × String)
  | [table] => .ok (Database.mainSchema, table)
  | [first, table] =>
    if context.namesDatabase first then
      if (context.database.schema? first).isSome then
        .error (.binder ("Ambiguous reference to catalog or schema " ++ first))
      else if sameName first context.catalogue then .ok (Database.mainSchema, table)
      else .error (.catalogue ("Table with name " ++ table ++ " does not exist!"))
    else .ok (first, table)
  | [first, schema, table] =>
    if sameName first context.catalogue then .ok (schema, table)
    else .error (.binder ("Catalog " ++ first ++ " does not exist!"))
  | _ => .error (.parser "Expected a name of at most three parts")

/-- The schema that a path names. -/
def locateSchema (context : Context) : List String → Except Fault String
  | [schema] => .ok schema
  | [first, schema] =>
    if sameName first context.catalogue then .ok schema
    else .error (.binder ("Catalog " ++ first ++ " does not exist!"))
  | _ => .error (.parser "Expected a name of at most two parts")

/-- The fault of a schema that is not there. -/
def noSchema (name : String) : Fault :=
  .catalogue ("Schema with name " ++ name ++ " does not exist!")

/-- The fault of a table that is not there. -/
def noTable (name : String) : Fault :=
  .catalogue ("Table with name " ++ name ++ " does not exist!")

/-- The table that a path names, with its schema. -/
def find (context : Context) (path : List String) : Except Fault (String × Table) := do
  let (schema, name) ← context.locate path
  match context.database.table? schema name with
  | some table => return (schema, table)
  | none =>
    let described := if sameName schema informationSchema then context.information? name else none
    match described, context.database.schema? schema with
    | some table, _ => return (schema, table)
    | none, some _ => throw (noTable name)
    | none, none => throw (noSchema schema)

/-- What an expression may refer to among columns. -/
def scope (context : Context) (columns : List ScopeColumn) : Scope :=
  ⟨columns, context.values⟩

/-- The value of an expression that refers to no column. -/
def constant (context : Context) (e : Expression) (type : SqlType) : Except Fault Datum := do
  let typed ← (context.scope []).bind e
  (typed.castTo type).eval []

/-- An integer that an expression without columns gives. -/
def constantInt (context : Context) (e : Expression) : Except Fault Int := do
  match ← context.constant e (.integral .bigint) with
  | .int n => return n
  | _ => return 0

/-- The columns and the rows of a source. -/
def openSource (context : Context) :
    Source × Option String → Except Fault (List ScopeColumn × RowSource)
  | (.table path, other) => do
    let (schema, table) ← context.find path
    let owner := match other with
      | some name => [name]
      | none => [schema, table.name]
    return (table.columns.map fun c => ⟨owner, c.name, c.type⟩, .stored table.rows)
  | (.call name arguments, other) => do
    let bounds ← arguments.mapM context.constantInt
    let column : ScopeColumn := ⟨[other.getD name], name, .integral .bigint⟩
    match name, bounds with
    | "range", [stop] => return ([column], .counted 0 stop.toNat)
    | "range", [start, stop] => return ([column], .counted start (stop - start).toNat)
    | "generate_series", [stop] => return ([column], .counted 0 (stop + 1).toNat)
    | "generate_series", [start, stop] =>
      return ([column], .counted start (stop + 1 - start).toNat)
    | _, _ => throw (.catalogue ("Table Function with name " ++ name ++ " does not exist!"))

/-- The name of a column of an answer that has none of its own. -/
def itemName : Expression → String
  | .column path => path.getLastD ""
  | .literal value _ => value.toText
  | .call name 0 _ => if name = "count" then "count_star()" else name ++ "()"
  | .call name _ _ => name
  | _ => "expression"

/-- The columns of an answer that an item asks for. -/
def bindItem (scope : Scope) : Item → Except Fault (List (String × Typed))
  | .all =>
    if scope.columns.isEmpty then throw (.binder "SELECT * expression without FROM clause!")
    else return scope.columns.zipIdx.map fun (c, i) => (c.name, ⟨.column i, c.type⟩)
  | .value e name => do
    let typed ← scope.bind e
    return [(name.getD (itemName e), typed)]

/-- The term of an order's key: a column of the answer by its place or by its other name, or any
expression. -/
def bindKey (scope : Scope) (items : List (String × Typed)) (aliases : List String)
    (e : Expression) : Except Fault Term :=
  match e with
  | .literal (.int n) _ =>
    match if n ≤ 0 then none else items[n.toNat - 1]? with
    | some (_, typed) => .ok typed.term
    | none => .error (.binder "ORDER term out of range")
  | .column [name] =>
    match if aliases.any (sameName name) then
        items.find? fun entry => sameName entry.1 name else none with
    | some (_, typed) => .ok typed.term
    | none => (scope.bind e).map Typed.term
  | e => (scope.bind e).map Typed.term

/-- A condition on rows, which aggregates cannot be part of. -/
def bindCondition (scope : Scope) (e : Expression) : Except Fault Term := do
  let typed ← scope.bind e
  if typed.term.hasAggregate then throw (.binder "WHERE clause cannot contain aggregates!")
  else return typed.castTo .boolean

/-- The names that items have been given. -/
def aliasesOf (items : List Item) : List String :=
  items.filterMap fun
    | .value _ name => name
    | .all => none

/-- A number of rows that an expression gives, if there is one. -/
def rowCount (context : Context) : Option Expression → Except Fault (Option Nat)
  | none => .ok none
  | some e => do
    let n ← context.constantInt e
    if n < 0 then throw (.binder "LIMIT and OFFSET cannot be negative") else return some n.toNat

/-- Looks up a query. -/
def planQuery (context : Context) (q : Query) : Except Fault QueryPlan := do
  let sources ← q.sources.mapM context.openSource
  let scope := context.scope (sources.flatMap (·.1))
  let condition ← q.condition.mapM (bindCondition scope)
  let items := (← q.items.mapM (bindItem scope)).flatten
  let order ← q.order.mapM fun key => do
    let term ← bindKey scope items (aliasesOf q.items) key.expression
    return SortKey.mk term key.descending key.nullsFirst
  let terms := items.map fun (_, typed) => typed.term
  if terms.any Term.hasAggregate && terms.any Term.hasBareColumn then
    throw (.binder "column must appear in the GROUP BY clause or be used in an aggregate function")
  return {
    sources := sources.map (·.2)
    condition := condition
    items := items
    order := order
    limit := ← context.rowCount q.limit
    offset := (← context.rowCount q.offset).getD 0 }

end Context

/-! ## Queries -/

/-- How two values compare under a key. -/
def SortKey.order (key : SortKey) (a b : Datum) : Ordering :=
  match a == .null, b == .null with
  | true, true => .eq
  | true, false => if key.nullsFirst then .lt else .gt
  | false, true => if key.nullsFirst then .gt else .lt
  | false, false => if key.descending then (a.order b).swap else a.order b

namespace QueryPlan

/-- The number of rows that have to be looked at. -/
def cost (q : QueryPlan) : Nat :=
  RowSource.combinations q.sources

/-- Whether a row meets the condition. -/
def admits (q : QueryPlan) (row : Record) : Except Fault Bool :=
  match q.condition with
  | none => .ok true
  | some term => do return (← term.eval row) == .bool true

/-- Whether a list of values may stand in front of another under keys. -/
def precedes : List SortKey → Record → Record → Bool
  | key :: keys, a :: as, b :: bs =>
    match key.order a b with
    | .lt => true
    | .gt => false
    | .eq => precedes keys as bs
  | _, _, _ => true

/-- The terms of the columns of the answer. -/
def terms (q : QueryPlan) : List Term :=
  q.items.map fun (_, typed) => typed.term

/-- The answer before some of its rows are cut off. -/
def allRows (q : QueryPlan) : Except Fault (List Record) := do
  let rows ← (RowSource.combine q.sources).filterM q.admits
  if q.terms.any Term.hasAggregate then
    let collapsed ← q.terms.mapM fun t => t.collapse rows
    return [← collapsed.mapM fun t => t.eval []]
  else
    let keyed ← rows.mapM fun row => do
      let keys ← q.order.mapM fun key => key.term.eval row
      let values ← q.terms.mapM fun t => t.eval row
      return (keys, values)
    return (keyed.mergeSort fun a b => precedes q.order a.1 b.1).map (·.2)

/-- The answer. -/
def run (q : QueryPlan) : Except Fault (List Record) := do
  let rows := (← q.allRows).drop q.offset
  return match q.limit with
    | some n => rows.take n
    | none => rows

end QueryPlan

/-! ## Statements -/

/-- New rows with everything looked up. -/
inductive RowsPlan where
  | terms (rows : List (List Term))
  | query (plan : QueryPlan)

/-- The number of rows that have to be looked at. -/
def RowsPlan.cost : RowsPlan → Nat
  | terms rows => rows.length
  | query plan => plan.cost

/-- The new rows. -/
def RowsPlan.run : RowsPlan → Except Fault (List Record)
  | terms rows => rows.mapM fun row => row.mapM fun t => t.eval []
  | query plan => plan.run

/-- A statement with everything looked up. -/
inductive Plan where
  | query (plan : QueryPlan)
  | createSchema (name : String) (existing : Existing)
  | dropSchema (name : String) (ifPresent cascade : Bool)
  | createTable (schema : String) (table : Table) (existing : Existing) (rows : Option RowsPlan)
  /-- Drops a table that is there, or nothing. -/
  | dropTable (found : Option (String × String))
  /-- Adds rows; for each column, the place of its value in them, if it has one. -/
  | insert (schema : String) (table : Table) (places : List (Option Nat)) (rows : RowsPlan)

/-- The number of rows that a statement has to look at. -/
def Plan.cost : Plan → Nat
  | .query plan => plan.cost
  | .insert _ _ _ rows => rows.cost
  | .createTable _ _ _ (some rows) => rows.cost
  | _ => 1

namespace Context

/-- The columns of a table's definition. -/
def columnsOf (clauses : List TableClause) : List ColumnClause :=
  clauses.filterMap fun
    | .column clause => some clause
    | .key _ _ => none

/-- The keys of a table's definition, and whether each is the primary one. -/
def keysOf (clauses : List TableClause) : List (List String × Bool) :=
  clauses.flatMap fun
    | .key columns isPrimary => [(columns, isPrimary)]
    | .column clause =>
      (if clause.isKey then [([clause.name], true)] else [])
        ++ (if clause.isUnique then [([clause.name], false)] else [])

/-- The places of columns by their names. -/
def placesOf (table : Table) (names : List String) : Except Fault (List Nat) :=
  names.mapM fun name =>
    match table.place? name with
    | some i => .ok i
    | none => .error (.binder ("Table " ++ table.name ++ " does not have a column " ++ name))

/-- Whether a name occurs twice, in letters of either case. -/
def hasDuplicates (names : List String) : Bool :=
  let folded := names.map Name.fold
  folded.eraseDups.length != folded.length

/-- The table that a definition describes. -/
def defineTable (name : String) (clauses : List TableClause) : Except Fault Table := do
  let columns := columnsOf clauses
  let keys := keysOf clauses
  if hasDuplicates (columns.map ColumnClause.name) then
    throw (.catalogue "Column with name already exists!")
  if 1 < (keys.filter (·.2)).length then
    throw (.parser "table can only have one primary key")
  let primary := keys.flatMap fun (names, isPrimary) => if isPrimary then names else []
  let columns ← columns.mapM fun clause => do
    let type ← clause.type.resolve
    return Column.mk clause.name type (clause.isRequired || primary.any (sameName clause.name))
  let bare : Table := ⟨name, columns, [], []⟩
  let places ← keys.mapM fun (names, _) => placesOf bare names
  return { bare with keys := places }

/-- The table that holds the answer of a query. -/
def tableOf (name : String) (plan : QueryPlan) : Table where
  name := name
  columns := plan.items.map fun (column, typed) =>
    ⟨column, if typed.type = .unknown then .integral .integer else typed.type, false⟩
  keys := []
  rows := []

/-- Checks that the schema of a new table is there. -/
def requireSchema (context : Context) (schema : String) : Except Fault Unit :=
  if (context.database.schema? schema).isSome then .ok () else .error (noSchema schema)

/-- Checks that rows have as many values as are needed. -/
def requireCount (needed given : Nat) : Except Fault Unit :=
  if needed = given then .ok ()
  else .error (.binder "The number of values does not match the number of columns")

/-- Looks up new rows of a number of values. -/
def planRows (context : Context) (needed : Nat) : NewRows → Except Fault RowsPlan
  | .values rows => do
    let _ ← rows.mapM fun row => requireCount needed row.length
    let terms ← rows.mapM fun row => row.mapM fun e => do
      return (← (context.scope []).bind e).term
    return .terms terms
  | .query q => do
    let plan ← context.planQuery q
    requireCount needed plan.items.length
    return .query plan

/-- Looks up a statement that inserts rows. -/
def planInsert (context : Context) (path : List String) (columns : Option (List String))
    (rows : NewRows) : Except Fault Plan := do
  let (schema, table) ← context.find path
  let all := List.range table.columns.length
  let targets ← match columns with
    | none => pure all
    | some names =>
      if hasDuplicates names then throw (.binder "Duplicate column name in INSERT")
      else placesOf table names
  let rows ← context.planRows targets.length rows
  return .insert schema table (all.map fun i => targets.idxOf? i) rows

/-- Looks up a statement. -/
def plan (context : Context) : Command → Except Fault Plan
  | .query q => do return .query (← context.planQuery q)
  | .createSchema path existing => do return .createSchema (← context.locateSchema path) existing
  | .dropSchema path ifPresent cascade => do
    return .dropSchema (← context.locateSchema path) ifPresent cascade
  | .createTable path existing clauses => do
    let (schema, name) ← context.locate path
    context.requireSchema schema
    return .createTable schema (← defineTable name clauses) existing none
  | .createTableAs path existing q => do
    let (schema, name) ← context.locate path
    context.requireSchema schema
    let plan ← context.planQuery q
    return .createTable schema (tableOf name plan) existing (some (.query plan))
  | .dropTable path ifPresent =>
    match context.find path with
    | .ok (schema, table) => .ok (.dropTable (some (schema, table.name)))
    | .error fault => if ifPresent then .ok (.dropTable none) else .error fault
  | .insert path columns rows => context.planInsert path columns rows

end Context

/-- A row with its values in the places and in the types of a table's columns. -/
def fitRow (table : Table) (places : List (Option Nat)) (row : Record) : Except Fault Record :=
  (table.columns.zip places).mapM fun (column, place) =>
    match place.bind fun i => row[i]? with
    | some d => d.cast column.type
    | none => .ok .null

/-- The row that says how many rows were changed. -/
def changedRows (count : Nat) : List Record :=
  [[.int count]]

namespace Plan

/-- A new table with its rows, and what is said of it. -/
def fill (table : Table) : Option RowsPlan → Except Fault (Table × List Record)
  | none => .ok (table, [])
  | some rows => do
    let rows ← rows.run
    let places := (List.range table.columns.length).map some
    let rows ← rows.mapM (fitRow table places)
    return (← table.append rows, changedRows rows.length)

/-- The database with a new table, unless one of its name is in the way. -/
def runCreateTable (db : Database) (schema : String) (table : Table) (existing : Existing)
    (rows : Option RowsPlan) : Except Fault (Database × List Record) := do
  match db.table? schema table.name, existing with
  | some _, .keep => return (db, [])
  | some _, .refuse => throw (.catalogue ("Table with name " ++ table.name ++ " already exists!"))
  | _, _ =>
    let (table, answer) ← fill table rows
    return ((db.dropTable schema table.name).addTable schema table, answer)

/-- The database without a schema, which may have to be empty. -/
def runDropSchema (db : Database) (name : String) (ifPresent cascade : Bool) :
    Except Fault Database :=
  match db.schema? name with
  | none => if ifPresent then .ok db else .error (Context.noSchema name)
  | some schema =>
    if sameName name Database.mainSchema then
      .error (.catalogue "Cannot drop entry because it is an internal system entry")
    else if schema.tables.isEmpty || cascade then .ok (db.dropSchema name)
    else .error (.dependency ("Cannot drop entry " ++ name
      ++ " because there are entries that depend on it."))

/-- The effect of a statement on the database, and its rows. A statement with a fault has no
effect. -/
def run (db : Database) : Plan → Except Fault (Database × List Record)
  | query plan => do return (db, ← plan.run)
  | createSchema name existing =>
    if (db.schema? name).isSome then
      if existing = .keep then .ok (db, [])
      else .error (.catalogue ("Schema with name " ++ name ++ " already exists!"))
    else .ok (db.addSchema name, [])
  | dropSchema name ifPresent cascade => do
    return (← runDropSchema db name ifPresent cascade, [])
  | createTable schema table existing rows => runCreateTable db schema table existing rows
  | dropTable (some (schema, table)) => .ok (db.dropTable schema table, [])
  | dropTable none => .ok (db, [])
  | insert schema table places rows => do
    let rows ← rows.run
    let rows ← rows.mapM (fitRow table places)
    return (db.setTable schema (← table.append rows), changedRows rows.length)

end Plan

end SchemaMigration.Sql
