import SchemaMigration.Proofs.Migration.Course
import SchemaMigration.Proofs.Store.Sheet

/-!
# Records are read as they were written

Scripts that are recorded one after the other in a new ledger come back as the records that the
writing returned, sorted by version. The database goes by the names of columns only, so this is
about the columns that a table is created with, those that a row is written under, and those that
are read.

* `Ledger.writeRecords` records scripts in order, and `Ledger.writeAndRead` reads them back.
* `Ledger.decodeRow_scriptCells`: the record in the cells of a script.
* `Ledger.Lists`: the scripts in a ledger, which each record adds one to.
* `Ledger.written_read_back`: what is read is what was written.
-/

namespace SchemaMigration

namespace Ledger

/-- Records scripts in order, each under an id. -/
def writeRecords (l : Ledger) (timeout : Nat) :
    List (Uuid × Script) → Task MigrationError (List AppliedScript)
  | [] => return []
  | (id, script) :: entries => do
    let record ← l.writeRecord timeout id script
    let records ← writeRecords l timeout entries
    return record :: records

/-- Creates the ledger, records scripts in order and reads all records. The result is what was
returned for each script, and what was read. -/
def writeAndRead (l : Ledger) (timeout : Nat) (entries : List (Uuid × Script)) :
    Task MigrationError (List AppliedScript × List AppliedScript) := do
  let _ ← Task.execute timeout l.createTable l.bootstrapError
  let written ← l.writeRecords timeout entries
  let read ← l.readRecords timeout
  return (written, read)

/-! ## Cells of a script -/

theorem decodeRow_scriptCells {l : Ledger} {script : Script}
    (h : script.version < versionBound) :
    l.decodeRow (l.scriptCells script) = .ok (l.recordOf script) := by
  have hversion : (l.scriptCells script).int? 0 = some (script.version : Int) := rfl
  have hname : (l.scriptCells script).text? 1 = some script.name := rfl
  have hchecksum : (if l.checksums then (l.scriptCells script).text? 2 else none) =
      if l.checksums then some script.checksum else none := by
    unfold scriptCells
    cases l.checksums <;> rfl
  rw [decodeRow_of_version hversion h, hname, hchecksum]
  rfl

theorem decodeRows_scriptCells {l : Ledger} {scripts : List Script}
    (h : ∀ script ∈ scripts, script.version < versionBound) :
    l.decodeRows (scripts.map l.scriptCells) = .ok (scripts.map l.recordOf) := by
  rw [decodeRows_eq_ok_iff, List.map_map, List.map_map]
  apply List.map_congr_left
  intro script hscript
  rw [Function.comp_apply, Function.comp_apply, decodeRow_scriptCells (h script hscript)]

end Ledger

/-! ## Recording in a new ledger -/

/-- A statement that is performed is a success at once, whatever it may take. -/
theorem Sheets.ask_of_perform {ε : Type} (dialect : Dialect) {made : Nat → Cell} {timeout : Nat}
    {statement : Statement} {s after : Sheets} {rows : List Row}
    (h : s.perform made (statement.withTimeout timeout) = (.ok rows, after))
    (wrap : SessionError → ε) :
    let asked := (Sheets.session dialect made).ask timeout statement wrap s
    asked.result = .ok (.ofRows rows) ∧ asked.state = after := by
  intro asked
  have hsend : (Sheets.session dialect made).send s (statement.withTimeout timeout) =
      (⟨0, .ok (.ofRows rows)⟩, after) := by
    simp [Sheets.session, h, Except.map, Except.mapError]
  -- it takes no time, so no time limit is too short
  have hrows : ((Sheets.session dialect made).send s (statement.withTimeout timeout)).1.rows?
      timeout = some rows := by
    simp [hsend, Reply.rows?, Answer.ofRows]
  refine ⟨Session.ask_result_of_some _ timeout hrows wrap, ?_⟩
  exact (Session.ask_state_of_some _ timeout hrows wrap).trans (by rw [hsend])

namespace Ledger

/-- The ledger is there with its columns, and its rows are those of some scripts, oldest first. -/
def Lists (l : Ledger) (scripts : List Script) (s : Sheets) : Prop :=
  ∃ sheet, Store.look l.qualified s = some sheet ∧ sheet.columns = l.storedColumns ∧
    sheet.read l.readColumns = scripts.map l.scriptCells

variable {l : Ledger} (made : Nat → Cell) (timeout : Nat) {s : Sheets}

/-- A new ledger lists no scripts. -/
theorem lists_createTable (h : Store.look l.qualified s = none) :
    let created := (Sheets.session l.dialect made).ask timeout l.createTable l.bootstrapError s
    created.result = .ok (.ofRows []) ∧ l.Lists [] created.state := by
  intro created
  obtain ⟨hresult, hstate⟩ := Sheets.ask_of_perform l.dialect (sheets_createTable made timeout h)
    l.bootstrapError
  refine ⟨hresult, ⟨l.storedColumns, []⟩, ?_, rfl, rfl⟩
  rw [hstate]
  exact Store.look_append_self h _

/-- What one record does: the ledger lists one script more. -/
theorem Lists.writeRecord {scripts : List Script} (h : l.Lists scripts s) {script : Script}
    (hroom : script.version ≤ maxColumnVersion) (id : Uuid) :
    let written := Task.trace (Sheets.session l.dialect made) (l.writeRecord timeout id script) s
    written.result = .ok (l.recordOf script) ∧ l.Lists (scripts ++ [script]) written.state := by
  intro written
  obtain ⟨sheet, hsheet, hcolumns, hread⟩ := h
  obtain ⟨hresult, hstate⟩ := Sheets.ask_of_perform l.dialect
    (sheets_insertRow made timeout hsheet hcolumns id script)
    fun e => MigrationError.ledgerWrite script.name l.qualified e.message
  have htrace : written = _ := trace_writeRecord _ hroom id s
  rw [htrace]
  refine ⟨by simp [Trace.map, hresult, Except.map], { sheet with
    rows := sheet.rows ++ [l.sheetRow (made sheet.rows.length) id script] }, ?_, hcolumns, ?_⟩
  · rw [Trace.map, hstate]
    exact Store.look_replace_self hsheet _
  · simp only [Sheet.read, List.map_append, List.map_cons, List.map_nil, read_sheetRow] at hread ⊢
    rw [hread]

/-- A run of records: the ledger lists their scripts in order, and each was returned as it was
written. -/
theorem Lists.writeRecords {scripts : List Script} (h : l.Lists scripts s)
    {entries : List (Uuid × Script)}
    (hroom : ∀ entry ∈ entries, entry.2.version ≤ maxColumnVersion) :
    let written := Task.trace (Sheets.session l.dialect made) (l.writeRecords timeout entries) s
    written.result = .ok (entries.map fun entry => l.recordOf entry.2) ∧
      l.Lists (scripts ++ entries.map (·.2)) written.state := by
  -- the others are written to a ledger that lists the first script as well
  induction entries generalizing scripts s with
  | nil => exact ⟨rfl, by simpa [Ledger.writeRecords] using h⟩
  | cons entry entries ih =>
      obtain ⟨id, script⟩ := entry
      obtain ⟨hscript, hscripts⟩ := List.forall_mem_cons.mp hroom
      obtain ⟨hfirst, hlists⟩ := h.writeRecord made timeout hscript id
      obtain ⟨hothers, hall⟩ := ih hlists hscripts
      simp only [Ledger.writeRecords, Task.trace_bind, Task.trace_pure, Trace.bind_pure,
        Trace.bind_of_ok hfirst, Trace.map, hothers]
      exact ⟨rfl, by simpa using hall⟩

/-- Reading gives the records of the scripts that the ledger lists, in the order of their
versions. -/
theorem Lists.readRecords {scripts : List Script} (h : l.Lists scripts s)
    (hversions : ∀ script ∈ scripts, script.version < versionBound) :
    (Task.trace (Sheets.session l.dialect made) (l.readRecords timeout) s).result =
      .ok (sortRecords (scripts.map l.recordOf)) := by
  obtain ⟨sheet, hsheet, hcolumns, hread⟩ := h
  obtain ⟨hresult, -⟩ := Sheets.ask_of_perform l.dialect
    (sheets_selectRows made timeout hsheet hcolumns)
    (MigrationError.ledgerRead l.qualified)
  simp only [Ledger.readRecords, Task.trace_bind, Task.trace_execute, Task.trace_ofExcept,
    Task.trace_pure, Trace.bind_of_ok hresult, Answer.ofRows, hread,
    decodeRows_scriptCells hversions, Trace.pure_bind]

/-- Writing and reading are inverse to each other. In a new ledger, in either dialect and with or
without checksums, all scripts with versions that it has room for are recorded. Reading then
succeeds, with the very records that the writing returned, stably sorted by version. A script of a
greater version is refused whatever database there is, and nothing is sent to it. -/
theorem written_read_back (l : Ledger) (timeout : Nat) :
    (∀ (made : Nat → Cell) (start : Sheets) (entries : List (Uuid × Script)),
      Store.look l.qualified start = none →
      (∀ entry ∈ entries, entry.2.version ≤ maxColumnVersion) →
      ∃ written read,
        (Task.trace (Sheets.session l.dialect made) (l.writeAndRead timeout entries) start).result =
          .ok (written, read) ∧
        written = entries.map (fun entry => l.recordOf entry.2) ∧ StablySorted written read) ∧
    ∀ {σ : Type} (session : Session σ) (id : Uuid) (script : Script) (state : σ),
      maxColumnVersion < script.version →
      Task.trace session (l.writeRecord timeout id script) state =
        ⟨.error (.ledgerWrite script.name l.qualified (noRoom script.version)), state, []⟩ := by
  constructor
  · intro made start entries hfresh hroom
    obtain ⟨hcreated, hnone⟩ := lists_createTable made timeout hfresh
    obtain ⟨hwritten, hall⟩ := hnone.writeRecords made timeout hroom
    have hversions : ∀ script ∈ entries.map (·.2), script.version < versionBound := by
      intro script hscript
      obtain ⟨entry, hentry, rfl⟩ := List.mem_map.mp hscript
      exact Nat.lt_of_le_of_lt (hroom entry hentry) (by decide)
    have hread := hall.readRecords made timeout hversions
    refine ⟨_, _, ?_, rfl, stablySorted_sortRecords _⟩
    simp only [writeAndRead, Task.trace_bind, Task.trace_execute, Task.trace_pure, Trace.bind_pure,
      Trace.bind_of_ok hcreated, Trace.bind_of_ok hwritten, Trace.map, hread]
    simp [Except.map, Function.comp_def]
  · intro σ session id script state hgreater
    exact trace_writeRecord_of_no_room session hgreater id state

/-- Three scripts in the embedded database, two of them of one version and the oldest one last, and
a script of the least version that there is no room for. -/
theorem written_read_back_sample :
    let l : Ledger := ⟨.duckdb, ⟨"app", by decide⟩, ⟨"migrated", by decide⟩, true⟩
    let entries : List (Uuid × Script) := [
      (.timeOrdered 1 0, ⟨2, "V002__b.cql", "V002__b.cql", ["SELECT 2"], "bb"⟩),
      (.timeOrdered 1 1, ⟨2, "V002__c.cql", "V002__c.cql", ["SELECT 3"], "cc"⟩),
      (.timeOrdered 2 0, ⟨1, "V001__a.cql", "V001__a.cql", ["SELECT 1"], "aa"⟩)]
    let session := Sheets.session .duckdb fun _ => .null
    (∃ written read,
      (Task.trace session (l.writeAndRead 1000 entries) []).result = .ok (written, read) ∧
      written = [⟨2, "V002__b.cql", some "bb"⟩, ⟨2, "V002__c.cql", some "cc"⟩,
        ⟨1, "V001__a.cql", some "aa"⟩] ∧ StablySorted written read) ∧
    Task.trace session (l.writeRecord 1000 .nil ⟨2147483648, "V2147483648__z.cql", "", [], ""⟩) [] =
      ⟨.error (.ledgerWrite "V2147483648__z.cql" "app.migrated"
        "version v2147483648 does not fit the ledger ver column"), [], []⟩ := by
  intro l entries session
  have hboth := written_read_back l 1000
  refine ⟨hboth.1 (fun _ => .null) [] entries rfl (by decide), ?_⟩
  exact hboth.2 session .nil _ [] (by decide)

end Ledger

end SchemaMigration
