import SchemaMigration.Connection
import SchemaMigration.Ledger

/-!
# The tables of a schema

A database describes its own tables. The question whether a keyspace is there is read, looked up and
answered from that description.

* `QueryPlan.run_plain`: the answer of a query without aggregates, an order and a limit.
* `Engine.Describes`: nothing stands in the way of the description.
* `Engine.run_listTables`: the answer is the names of the schema's tables.
* `Engine.send_listTables_empty`: a database with nothing in it has no table to tell of.
-/

namespace SchemaMigration.Sql

/-! ## Plain queries -/

theorem filterM_ok {ε α : Type} {p : α → Except ε Bool} {q : α → Bool} {as : List α}
    (h : ∀ a ∈ as, p a = .ok (q a)) : as.filterM p = .ok (as.filter q) := by
  have haux : ∀ acc, as.filterAuxM p acc = .ok ((as.filter q).reverse ++ acc) := by
    induction as with
    | nil => exact fun _ => rfl
    | cons a as ih =>
        intro acc
        have hrest := ih fun b hb => h b (List.mem_cons_of_mem _ hb)
        rw [List.filterAuxM, h a List.mem_cons_self]
        change as.filterAuxM p (bif q a then a :: acc else acc) = _
        rw [hrest]
        cases hq : q a <;> simp [hq]
  rw [List.filterM, haux]
  simp [bind, Except.bind, pure, Except.pure]

theorem mapM_ok {ε α β : Type} {f : α → Except ε β} {g : α → β} {as : List α}
    (h : ∀ a ∈ as, f a = .ok (g a)) : as.mapM f = .ok (as.map g) := by
  induction as with
  | nil => rfl
  | cons a as ih =>
      rw [List.mapM_cons, h a List.mem_cons_self, ih fun b hb => h b (List.mem_cons_of_mem _ hb)]
      rfl

/-- The answer of a query without aggregates, an order and a limit: the rows that meet the
condition, each with the values that it is asked for. -/
theorem QueryPlan.run_plain {plan : QueryPlan} (hplain : plan.terms.any Term.hasAggregate = false)
    (horder : plan.order = []) (hlimit : plan.limit = none) (hoffset : plan.offset = 0)
    {p : Record → Bool} {values : Record → Record}
    (hadmits : ∀ row ∈ RowSource.combine plan.sources, plan.admits row = .ok (p row))
    (hvalues : ∀ row ∈ RowSource.combine plan.sources,
      (plan.terms.mapM fun t => t.eval row) = .ok (values row)) :
    plan.run = .ok (((RowSource.combine plan.sources).filter p).map values) := by
  have hkeyed : (((RowSource.combine plan.sources).filter p).mapM fun row => do
      let keys ← plan.order.mapM fun key => key.term.eval row
      let found ← plan.terms.mapM fun t => t.eval row
      return (keys, found) : Except Fault (List (Record × Record))) =
        .ok (((RowSource.combine plan.sources).filter p).map fun row => ([], values row)) := by
    apply mapM_ok
    intro row hrow
    rw [horder, hvalues row (List.mem_filter.mp hrow).1]
    rfl
  -- without keys no row goes before another
  have hsorted : ∀ rows : List (Record × Record),
      (rows.mergeSort fun a b => precedes plan.order a.1 b.1) = rows := fun rows =>
    List.mergeSort_of_pairwise (List.pairwise_of_forall (by simp [horder, precedes]))
  have hall : plan.allRows = .ok (((RowSource.combine plan.sources).filter p).map values) := by
    unfold allRows
    rw [filterM_ok hadmits]
    simp only [bind, Except.bind] at hkeyed ⊢
    simp only [hplain, hkeyed, hsorted, Bool.false_eq_true, if_false, List.map_map]
    rfl
  simp [QueryPlan.run, hall, hlimit, hoffset, bind, Except.bind, pure, Except.pure]

/-! ## The description of the tables -/

/-- The question for the tables of a schema, as it is read. -/
def tablesQuery : Query where
  items := [.value (.column ["table_name"]) none]
  sources := [(.table [informationSchema, "tables"], none)]
  condition := some (.binary .eq (.column ["table_schema"]) (.placeholder 1))
  order := []
  limit := none
  offset := none

/-- Whether the description of the tables is found under its name: no schema has that name, and
neither has the database. -/
structure Engine.Describes (engine : Engine) (db : Database) : Prop where
  schema : db.schema? informationSchema = none
  catalogue : sameName informationSchema engine.catalogue = false

/-- The columns of the description. -/
def tablesColumns : List ScopeColumn :=
  ["table_catalog", "table_schema", "table_name", "table_type"].map fun name =>
    ⟨[informationSchema, "tables"], name, .varchar⟩

/-- A row of the description. -/
def tablesRow (catalogue : String) (entry : String × Table) : Record :=
  [.text catalogue, .text entry.1, .text entry.2.name, .text "BASE TABLE"]

/-- The question for the tables of a schema, looked up. -/
def tablesPlan (catalogue : String) (db : Database) (schema : String) : QueryPlan where
  sources := [.stored (db.allTables.map (tablesRow catalogue))]
  condition := some (.compare .eq (.column 1) (.value (.text schema)))
  items := [("table_name", ⟨.column 2, .varchar⟩)]
  order := []
  limit := none
  offset := 0

namespace Context

variable {engine : Engine} {db : Database} {values : List (Datum × SqlType)}

theorem locate_tables (h : engine.Describes db) :
    locate ⟨engine.catalogue, db, values⟩ [informationSchema, "tables"] =
      .ok (informationSchema, "tables") := by
  have hothers : ["system", "temp"].any (sameName informationSchema) = false := by
    decide +kernel
  have hname : namesDatabase ⟨engine.catalogue, db, values⟩ informationSchema = false := by
    simp only [namesDatabase, List.any_cons, h.catalogue, Bool.false_or]
    exact hothers
  simp only [locate, hname, Bool.false_eq_true, if_false]

theorem openSource_tables (h : engine.Describes db) :
    openSource ⟨engine.catalogue, db, values⟩ (.table [informationSchema, "tables"], none) =
      .ok (tablesColumns, .stored (db.allTables.map (tablesRow engine.catalogue))) := by
  have htable : db.table? informationSchema "tables" = none := by
    simp only [Database.table?, h.schema, Option.bind_none]
  have hself : sameName informationSchema informationSchema = true := by decide +kernel
  have hfold : Name.fold "tables" = "tables" := by decide +kernel
  simp only [openSource, find, locate_tables h, bind, Except.bind, htable, hself, h.schema, if_true,
    information?, hfold, pure, Except.pure, textTable, tablesColumns, List.map_map]
  rfl

/-- A column of the description is found by its name, whatever the bound values are. -/
theorem lookUp_tables (values : List (Datum × SqlType)) {name : String} {i : Nat}
    (h : Scope.placesOf ⟨tablesColumns, []⟩ [name] = [(i, .varchar)]) :
    Scope.lookUp ⟨tablesColumns, values⟩ [name] = .ok ⟨.column i, .varchar⟩ := by
  have hplaces : Scope.placesOf ⟨tablesColumns, values⟩ [name] = [(i, .varchar)] := h
  simp only [Scope.lookUp, hplaces]

theorem planQuery_tables (h : engine.Describes db) (schema : String) :
    planQuery ⟨engine.catalogue, db, [(.text schema, .varchar)]⟩ tablesQuery =
      .ok (tablesPlan engine.catalogue db schema) := by
  have hschema := lookUp_tables [(.text schema, .varchar)]
    (show Scope.placesOf ⟨tablesColumns, []⟩ ["table_schema"] = [(1, .varchar)] by decide +kernel)
  have hname := lookUp_tables [(.text schema, .varchar)]
    (show Scope.placesOf ⟨tablesColumns, []⟩ ["table_name"] = [(2, .varchar)] by decide +kernel)
  simp [planQuery, tablesQuery, openSource_tables h, scope, bindCondition, bindItem, Scope.bind,
    hschema, hname, Typed.binary, Typed.comparison, commonType?, Typed.castTo, Term.hasAggregate,
    Term.hasBareColumn, rowCount, itemName, bind, Except.bind, pure, Except.pure]
  rfl

end Context

theorem Datum.compares_text (a b : String) :
    Datum.compares .eq (.text a) (.text b) = decide (a = b) := by
  have hcompare : compare a b = .eq ↔ a = b := Std.compare_eq_iff_eq
  by_cases h : a = b <;> simp [Datum.compares, Datum.order, hcompare, h]

/-- The tables of a schema by its very name, in letters of the same case. -/
theorem run_tablesPlan (catalogue : String) (db : Database) (schema : String) :
    (tablesPlan catalogue db schema).run =
      .ok ((db.allTables.filter (·.1 = schema)).map fun entry => [.text entry.2.name]) := by
  have hcombine : RowSource.combine (tablesPlan catalogue db schema).sources =
      db.allTables.map (tablesRow catalogue) := by
    simp [tablesPlan, RowSource.combine, RowSource.rows]
  have hadmits : ∀ row ∈ RowSource.combine (tablesPlan catalogue db schema).sources,
      (tablesPlan catalogue db schema).admits row = .ok (row[1]? = some (.text schema) : Bool) := by
    intro row hrow
    obtain ⟨entry, -, rfl⟩ := List.mem_map.mp (hcombine ▸ hrow)
    have hvalue : Term.eval (tablesRow catalogue entry)
        (.compare .eq (.column 1) (.value (.text schema))) = .ok (.bool (entry.1 = schema)) := by
      rw [← Datum.compares_text]
      rfl
    simp only [QueryPlan.admits, tablesPlan, hvalue, bind, Except.bind, pure, Except.pure]
    by_cases h : entry.1 = schema <;> simp [h, tablesRow]
  have hvalues : ∀ row ∈ RowSource.combine (tablesPlan catalogue db schema).sources,
      ((tablesPlan catalogue db schema).terms.mapM fun t => t.eval row) =
        .ok [row[2]?.getD .null] := fun _ _ => rfl
  rw [QueryPlan.run_plain rfl rfl rfl rfl hadmits hvalues, hcombine]
  simp [tablesRow, List.filter_map, Function.comp_def]

/-! ## The answer -/

namespace Engine

variable {engine : Engine} {db : Database} {l : Ledger}

theorem parse_listTables (hdialect : l.dialect = .duckdb) :
    nulPosition? l.listTables.text = none ∧
      Command.parseAll? l.listTables.text = some [⟨.query tablesQuery, 1⟩] := by
  have htext : l.listTables.text =
      "SELECT table_name FROM information_schema.tables WHERE table_schema = ?" := by
    simp only [Ledger.listTables, hdialect]
    rfl
  rw [htext]
  constructor <;> decide +kernel

/-- What a database that describes its tables tells of a keyspace. -/
theorem run_listTables (h : engine.Describes db) (hpatience : db.allTables.length ≤ patience)
    (hdialect : l.dialect = .duckdb) :
    engine.run db l.listTables.text l.listTables.values =
      ⟨.ok ((db.allTables.filter (·.1 = l.keyspace.text)).map fun entry => [.text entry.2.name]),
        db, db.allTables.length⟩ := by
  obtain ⟨hnul, hparse⟩ := parse_listTables hdialect
  -- the keyspace is not in the text but bound to it
  have hvalues : l.listTables.values = [.text l.keyspace.text] := by
    simp only [Ledger.listTables, hdialect]
    rfl
  have hplan : engine.prepare db [(.text l.keyspace.text, .varchar)] ⟨.query tablesQuery, 1⟩ =
      .ok (.query (tablesPlan engine.catalogue db l.keyspace.text)) := by
    simp only [prepare, Context.plan, Context.planQuery_tables h]
    rfl
  have hcost : (Plan.query (tablesPlan engine.catalogue db l.keyspace.text)).cost =
      db.allTables.length := by
    simp [Plan.cost, QueryPlan.cost, tablesPlan, RowSource.combinations, RowSource.count]
  have hrun : (Plan.query (tablesPlan engine.catalogue db l.keyspace.text)).run db =
      .ok (db, (db.allTables.filter (·.1 = l.keyspace.text)).map fun entry =>
        [.text entry.2.name]) := by
    simp only [Plan.run, run_tablesPlan]
    rfl
  simp only [run, hnul, hparse, runAll, runLast, hvalues]
  have hbound : ([Value.text l.keyspace.text].map fun v => (Datum.ofValue v, SqlType.ofValue v)) =
    [(.text l.keyspace.text, .varchar)] := rfl
  simp only [hbound, hplan, perform, hcost, checkAccess, Command.isWrite, Bool.and_false]
  simp [hrun, bind, Except.bind, Nat.not_lt.mpr hpatience]

/-- An open session answers in time that grows with the number of all tables. -/
theorem send_listTables (h : engine.Describes db) (hpatience : db.allTables.length ≤ patience)
    (hdialect : l.dialect = .duckdb) (timeout : Nat) :
    engine.session.send { database := db } (l.listTables.withTimeout timeout) =
      (⟨elapsed db.allTables.length, .ok (.ofRows ((db.allTables.filter
        (·.1 = l.keyspace.text)).map fun entry => [(Datum.text entry.2.name).toCell]))⟩,
        { database := db }) := by
  have hkind : l.listTables.kind = .query := by
    simp only [Ledger.listTables, hdialect]
    rfl
  change engine.send { database := db } (l.listTables.withTimeout timeout) = _
  simp [send, Statement.withTimeout, run_listTables h hpatience hdialect, answerOf, hkind,
    Function.comp_def]

/-- A database in memory starts without a table to tell of. -/
theorem send_listTables_empty (files : Files) (hdialect : l.dialect = .duckdb) (timeout : Nat) :
    let memory := Connection.inMemory files
    memory.session.send memory.start (l.listTables.withTimeout timeout) =
      (⟨1, .ok (.ofRows [])⟩, memory.start) := by
  have hname : sameName informationSchema (Connection.catalogueName Connection.memoryPath) = false :=
    by decide +kernel
  have hdescribes : (Connection.inMemory files).engine.Describes .empty :=
    ⟨by decide +kernel, hname⟩
  have hnone : Database.empty.allTables = [] := by decide +kernel
  have hsend := send_listTables hdescribes (by simp [hnone]) hdialect timeout
  rw [hnone] at hsend
  exact hsend

end Engine

end SchemaMigration.Sql
