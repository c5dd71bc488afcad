import SchemaMigration.Migration
import SchemaMigration.Proofs.Discovery
import SchemaMigration.Proofs.Ledger.Records
import SchemaMigration.Proofs.Step

/-!
# The course of a run

Each part of a run as a list of steps. A run asks for the tables of the keyspace, attempts the steps
of the bootstrap, reads the ledger, and attempts the steps of the scripts that are due.

* `Ledger.trace_bootstrap`: the steps of the bootstrap follow from the tables of the keyspace.
* `Job.trace_applyScripts`: the steps of scripts are their statements, each script's followed by
  its record.
* `Job.trace_migrateScripts`: the run over some scripts.
* `Job.trace_closingAfter`: closing the session sends no statement.
* `Job.trace_run`: the whole run.
-/

namespace SchemaMigration

variable {σ : Type} (session : Session σ)

/-! ## Bootstrap -/

namespace Ledger

/-- The steps that create the keyspace and the ledger in it. -/
def creationSteps (l : Ledger) (replication : Replication) : List Step :=
  [⟨l.createKeyspace replication, l.bootstrapError⟩, ⟨l.createTable, l.bootstrapError⟩]

/-- The steps of the bootstrap, for the tables that the keyspace is said to have. -/
def bootstrapSteps (l : Ledger) (replication : Replication) (refresh : Bool)
    (tables : List Row) : List Step :=
  if tables.isEmpty then l.creationSteps replication
  else if refresh then ⟨l.dropKeyspace, l.bootstrapError⟩ :: l.creationSteps replication
  else []

/-- What the bootstrap makes of the keyspace, for the tables that it is said to have. -/
def actionOn (refresh : Bool) (tables : List Row) : KeyspaceAction :=
  if tables.isEmpty then .created else if refresh then .recreated else .unchanged

theorem trace_create (l : Ledger) (timeout : Nat) (replication : Replication) (state : σ) :
    Task.trace session (l.create timeout replication) state =
      session.attempt timeout (l.creationSteps replication) state := by
  simp [create, creationSteps, Session.attempt]

theorem trace_bootstrap (l : Ledger) (timeout : Nat) (replication : Replication) (refresh : Bool)
    (state : σ) :
    Task.trace session (l.bootstrap timeout replication refresh) state =
      (session.ask timeout l.listTables l.bootstrapError state).bind fun answer state =>
        (session.attempt timeout (l.bootstrapSteps replication refresh answer.rows) state).map
          fun _ => actionOn refresh answer.rows := by
  simp only [bootstrap, keyspaceExists, Task.trace_bind, Task.trace_execute, Trace.bind_assoc]
  congr 1
  funext answer state
  rcases hrows : answer.rows.isEmpty with _ | _
  · cases refresh
    · simp [hrows, bootstrapSteps, actionOn, Session.attempt, Trace.map, Except.map]
    · simp [hrows, bootstrapSteps, actionOn, Session.attempt, trace_create, drop]
  · simp [hrows, bootstrapSteps, actionOn, trace_create]

/-- A keyspace with tables is left alone, and nothing but the tables is asked for. -/
theorem trace_bootstrap_of_tables {l : Ledger} {timeout : Nat} {state : σ} {tables : List Row}
    (h : (session.ask timeout l.listTables l.bootstrapError state).result = .ok (.ofRows tables))
    (hne : tables ≠ []) (replication : Replication) :
    Task.trace session (l.bootstrap timeout replication false) state =
      ⟨.ok .unchanged, (session.ask timeout l.listTables l.bootstrapError state).state,
        (session.ask timeout l.listTables l.bootstrapError state).sent⟩ := by
  have hempty : ¬ tables.isEmpty = true := by simpa using hne
  rw [trace_bootstrap, Trace.bind_of_ok h]
  simp [Answer.ofRows, bootstrapSteps, actionOn, hempty, Session.attempt]

/-- A keyspace without tables is created. -/
theorem action_of_no_tables {l : Ledger} {timeout : Nat} {state : σ}
    (h : (session.ask timeout l.listTables l.bootstrapError state).result = .ok (.ofRows []))
    {replication : Replication} {refresh : Bool} {action : KeyspaceAction}
    (hpast : (Task.trace session (l.bootstrap timeout replication refresh) state).result =
      .ok action) : action = .created := by
  rw [trace_bootstrap, Trace.bind_of_ok h] at hpast
  simp only [Answer.ofRows, actionOn, List.isEmpty_nil, if_true, Trace.map] at hpast
  rcases hcreated : (session.attempt timeout (l.bootstrapSteps replication refresh [])
    (session.ask timeout l.listTables l.bootstrapError state).state).result with error | ⟨⟩
  · simp [hcreated, Except.map] at hpast
  · simpa [hcreated, Except.map, eq_comm] using hpast

theorem bootstrap_strict (l : Ledger) (timeout : Nat) (replication : Replication) (refresh : Bool)
    (state : σ) :
    (Task.trace session (l.bootstrap timeout replication refresh) state).Strict timeout := by
  rw [trace_bootstrap]
  apply Trace.Strict.bind (.ask session timeout _ _ state)
  intro answer state
  exact (Trace.Strict.attempt session timeout _ state).map _

end Ledger

/-! ## Scripts -/

namespace Ledger

variable {script : Script}

theorem trace_writeRecord {l : Ledger} {timeout : Nat} (hroom : script.version ≤ maxColumnVersion)
    (id : Uuid) (state : σ) :
    Task.trace session (l.writeRecord timeout id script) state =
      (session.ask timeout (l.insertRow id script.version script)
        (fun e => MigrationError.ledgerWrite script.name l.qualified e.message) state).map
          fun _ => l.recordOf script := by
  have hnot : ¬ maxColumnVersion < script.version := Nat.not_lt.mpr hroom
  simp [writeRecord, hnot]

/-- What a version is said to be at fault with if the ledger has no room for it. -/
def noRoom (version : Version) : String :=
  "version " ++ Version.label version ++ " does not fit the ledger ver column"

/-- Such a version is refused without a statement. -/
theorem trace_writeRecord_of_no_room {l : Ledger} {timeout : Nat}
    (h : maxColumnVersion < script.version) (id : Uuid) (state : σ) :
    Task.trace session (l.writeRecord timeout id script) state =
      ⟨.error (.ledgerWrite script.name l.qualified (noRoom script.version)), state, []⟩ := by
  simp [writeRecord, h, noRoom, Trace.bind]

end Ledger

namespace Job

/-- The step that runs a statement of a script. -/
def statementStep (script : Script) (statement : String) : Step :=
  ⟨.execute statement [], .script script.name⟩

/-- The step that records a script. -/
def recordStep (job : Job) (number : Nat) (script : Script) : Step :=
  ⟨job.ledger.insertRow (job.rowId number) script.version script,
    fun e => .ledgerWrite script.name job.ledger.qualified e.message⟩

/-- The steps of a script: its statements in order, then its record. -/
def scriptSteps (job : Job) (number : Nat) (script : Script) : List Step :=
  script.statements.map (statementStep script) ++ [job.recordStep number script]

/-- The steps of scripts in order, the first one under the given number. -/
def dueSteps (job : Job) : Nat → List Script → List Step
  | _, [] => []
  | number, script :: scripts => job.scriptSteps number script ++ dueSteps job (number + 1) scripts

theorem forall_mem_dueSteps {job : Job} {P : Step → Prop} {scripts : List Script}
    (hstatement : ∀ script ∈ scripts, ∀ text ∈ script.statements, P (statementStep script text))
    (hrecord : ∀ script ∈ scripts, ∀ number, P (job.recordStep number script)) (number : Nat) :
    ∀ step ∈ job.dueSteps number scripts, P step := by
  induction scripts generalizing number with
  | nil => simp [dueSteps]
  | cons script scripts ih =>
      obtain ⟨hfirst, hothers⟩ := List.forall_mem_cons.mp hstatement
      obtain ⟨hfirst', hothers'⟩ := List.forall_mem_cons.mp hrecord
      intro step hstep
      rcases List.mem_append.mp hstep with hstep | hstep
      · rcases List.mem_append.mp hstep with hstep | hstep
        · obtain ⟨text, htext, rfl⟩ := List.mem_map.mp hstep
          exact hfirst text htext
        · rw [List.mem_singleton.mp hstep]
          exact hfirst' number
      · exact ih hothers hothers' (number + 1) step hstep

section Two

variable {job job' : Job} {R : Step → Step → Prop}

/-- The steps of a script for two jobs, compared one by one. -/
theorem forall₂_scriptSteps {script : Script}
    (hstatement : ∀ text ∈ script.statements,
      R (statementStep script text) (statementStep script text))
    {number : Nat} (hrecord : R (job.recordStep number script) (job'.recordStep number script)) :
    List.Forall₂ R (job.scriptSteps number script) (job'.scriptSteps number script) := by
  refine List.rel_append (List.forall₂_same.mpr ?_) (.cons hrecord .nil)
  intro step hstep
  obtain ⟨text, htext, rfl⟩ := List.mem_map.mp hstep
  exact hstatement text htext

theorem forall₂_dueSteps {scripts : List Script} (number : Nat)
    (h : ∀ script ∈ scripts, ∀ number,
      List.Forall₂ R (job.scriptSteps number script) (job'.scriptSteps number script)) :
    List.Forall₂ R (job.dueSteps number scripts) (job'.dueSteps number scripts) := by
  induction scripts generalizing number with
  | nil => exact .nil
  | cons script scripts ih =>
      obtain ⟨hfirst, hothers⟩ := List.forall_mem_cons.mp h
      exact List.rel_append (hfirst number) (ih (number + 1) hothers)

end Two

/-- Steps as they are sent. -/
def statementsOf (job : Job) (steps : List Step) : List Statement :=
  steps.map (·.statement.withTimeout job.timeout)

theorem trace_runStatements (job : Job) (script : Script) (statements : List String) (state : σ) :
    Task.trace session (job.runStatements script statements) state =
      session.attempt job.timeout (statements.map (statementStep script)) state := by
  induction statements generalizing state with
  | nil => rfl
  | cons statement statements ih =>
      simp only [runStatements, Task.trace_bind, Task.trace_say, Task.trace_execute,
        Trace.pure_bind, List.map_cons, Session.attempt, statementStep]
      congr 1
      funext _ state
      exact ih state

theorem trace_applyScript (job : Job) (number : Nat) (script : Script)
    (hroom : script.version ≤ Ledger.maxColumnVersion) (state : σ) :
    Task.trace session (job.applyScript number script) state =
      (session.attempt job.timeout (job.scriptSteps number script) state).map
        fun _ => job.ledger.recordOf script := by
  simp only [applyScript, scriptSteps, Session.attempt_append, Task.trace_bind, Task.trace_say,
    Trace.pure_bind, trace_runStatements, Trace.bind_map]
  congr 1
  funext _ state
  simp [Ledger.trace_writeRecord session hroom, Session.attempt_single, recordStep]

theorem trace_applyScripts (job : Job) (number : Nat) (scripts : List Script)
    (hroom : ∀ script ∈ scripts, script.version ≤ Ledger.maxColumnVersion) (state : σ) :
    Task.trace session (job.applyScripts number scripts) state =
      (session.attempt job.timeout (job.dueSteps number scripts) state).map
        fun _ => scripts.map job.ledger.recordOf := by
  induction scripts generalizing number state with
  | nil => rfl
  | cons script scripts ih =>
      obtain ⟨hscript, hscripts⟩ := List.forall_mem_cons.mp hroom
      simp only [applyScripts, dueSteps, Task.trace_bind, Session.attempt_append, Trace.bind_map,
        trace_applyScript session job number script hscript, Trace.map_bind]
      congr 1
      funext _ state
      simp [ih (number + 1) hscripts state]

/-! ## The run -/

/-- The scripts to apply, for the rows of the ledger: with the version at which the run goes on, or
the error that keeps it from going on. -/
def duty (job : Job) (scripts : List Script) (rows : List Row) :
    Except MigrationError (Version × List Script) :=
  match job.ledger.decodeRows rows with
  | .error error => .error error
  | .ok records =>
    match modifiedNames scripts (Ledger.sortRecords records) with
    | name :: _ => .error (.modified name job.ledger.qualified)
    | [] => .ok (newestVersion records, pending scripts (newestVersion records))

theorem duty_nil (job : Job) (scripts : List Script) :
    job.duty scripts [] = .ok (Version.none, pending scripts Version.none) := by
  simp [duty, Ledger.decodeRows, Ledger.sortRecords, modifiedNames, modifiedRecords]

theorem mem_of_duty {job : Job} {scripts : List Script} {rows : List Row}
    {due : Version × List Script} (h : job.duty scripts rows = .ok due) {script : Script}
    (hscript : script ∈ due.2) : script ∈ scripts := by
  unfold duty at h
  split at h
  · cases h
  · split at h
    · cases h
    · cases h
      exact List.mem_of_mem_filter hscript

/-- The report of a run that has applied what was due. -/
def reportOf (job : Job) (scripts : List Script) (action : KeyspaceAction)
    (due : Version × List Script) : Report where
  discovered := scripts.length
  keyspace := some action
  previousVersion := due.1
  applied := due.2.map job.ledger.recordOf

/-- The part of a run that comes after the bootstrap. -/
def resume (job : Job) (scripts : List Script) (action : KeyspaceAction) (state : σ) :
    Trace σ MigrationError Report :=
  (session.ask job.timeout job.ledger.selectRows (.ledgerRead job.ledger.qualified) state).bind
    fun answer state =>
      match job.duty scripts answer.rows with
      | .error error => ⟨.error error, state, []⟩
      | .ok due =>
        (session.attempt job.timeout (job.dueSteps 0 due.2) state).map
          fun _ => job.reportOf scripts action due

theorem resume_of_duty_error {job : Job} {scripts : List Script} {state : σ} {rows : List Row}
    (hread : (session.ask job.timeout job.ledger.selectRows
      (MigrationError.ledgerRead job.ledger.qualified) state).result = .ok (.ofRows rows))
    {error : MigrationError} (hduty : job.duty scripts rows = .error error)
    (action : KeyspaceAction) :
    job.resume session scripts action state =
      { session.ask job.timeout job.ledger.selectRows
          (MigrationError.ledgerRead job.ledger.qualified) state with result := .error error } := by
  rw [resume, Trace.bind_of_ok hread]
  simp only [Answer.ofRows, hduty, List.append_nil]

theorem resume_of_duty {job : Job} {scripts : List Script} {state : σ} {rows : List Row}
    (hread : (session.ask job.timeout job.ledger.selectRows
      (MigrationError.ledgerRead job.ledger.qualified) state).result = .ok (.ofRows rows))
    {due : Version × List Script} (hduty : job.duty scripts rows = .ok due)
    (action : KeyspaceAction) :
    let read := session.ask job.timeout job.ledger.selectRows
      (MigrationError.ledgerRead job.ledger.qualified) state
    let applied := session.attempt job.timeout (job.dueSteps 0 due.2) read.state
    job.resume session scripts action state =
      ⟨applied.result.map fun _ => job.reportOf scripts action due, applied.state,
        read.sent ++ applied.sent⟩ := by
  rw [resume, Trace.bind_of_ok hread]
  simp only [Answer.ofRows, hduty]
  rfl

/-- What follows the bootstrap succeeds if the ledger has been read, nothing in it keeps the run
from going on, and all scripts that are due have been applied. -/
theorem resume_eq_ok {job : Job} {scripts : List Script} {action : KeyspaceAction} {state : σ}
    {report : Report} (h : (job.resume session scripts action state).result = .ok report) :
    let read := session.ask job.timeout job.ledger.selectRows
      (MigrationError.ledgerRead job.ledger.qualified) state
    ∃ rows due, read.result = .ok (.ofRows rows) ∧ job.duty scripts rows = .ok due ∧
      (session.attempt job.timeout (job.dueSteps 0 due.2) read.state).result = .ok () ∧
      report = job.reportOf scripts action due := by
  intro read
  obtain ⟨e, -, -, -, ⟨rows, -, hok⟩ | ⟨-, herror⟩⟩ := session.ask_cases job.timeout
    job.ledger.selectRows (MigrationError.ledgerRead job.ledger.qualified) state
  · rcases hduty : job.duty scripts rows with error | due
    · rw [resume_of_duty_error session hok hduty] at h
      cases h
    · simp only [resume_of_duty session hok hduty] at h
      rcases happlied : (session.attempt job.timeout (job.dueSteps 0 due.2) read.state).result with
        error | ⟨⟩
      · simp [read, happlied, Except.map] at h
      · have hreport : job.reportOf scripts action due = report := by
          simpa [read, happlied, Except.map] using h
        exact ⟨rows, due, hok, hduty, happlied, hreport.symm⟩
  · rw [resume, Trace.bind_of_error herror] at h
    cases h

theorem resume_strict (job : Job) (scripts : List Script) (action : KeyspaceAction) (state : σ) :
    (job.resume session scripts action state).Strict job.timeout := by
  apply Trace.Strict.bind (.ask session job.timeout _ _ state)
  intro answer state
  rcases hduty : job.duty scripts answer.rows with error | due
  · exact .of_sent_nil rfl
  · exact (Trace.Strict.attempt session job.timeout _ state).map _

theorem trace_migrateScripts (job : Job) (scripts : List Script)
    (hroom : ∀ script ∈ scripts, script.version ≤ Ledger.maxColumnVersion) (state : σ) :
    Task.trace session (job.migrateScripts scripts) state =
      (Task.trace session
        (job.ledger.bootstrap job.timeout job.config.replication job.config.refresh) state).bind
        fun action state => job.resume session scripts action state := by
  unfold migrateScripts resume Ledger.readRecords
  simp only [Task.trace_bind, Task.trace_execute, Trace.bind_assoc]
  congr 1
  funext action state
  congr 1
  funext answer state
  rcases hrows : job.ledger.decodeRows answer.rows with error | records
  · simp [duty, hrows, Trace.bind]
  · simp only [Task.trace_ofExcept, Trace.pure_bind, Task.trace_pure, checkModified,
      Task.trace_bind, Task.trace_sayAll, duty, hrows]
    rcases modifiedNames scripts (Ledger.sortRecords records) with _ | ⟨name, names⟩
    · -- nothing has changed, so what is due is applied
      have hdue : ∀ script ∈ pending scripts (newestVersion records),
          script.version ≤ Ledger.maxColumnVersion := by
        intro script hscript
        exact hroom script (List.mem_of_mem_filter hscript)
      simp [Ledger.lastVersion_sortRecords, trace_applyScripts session job 0 _ hdue, reportOf]
    · rfl

/-- The scripts of a directory are found without a statement, and without scripts nothing is
sent. -/
theorem trace_migrate (job : Job) (listing : Listing) (state : σ) :
    Task.trace session (job.migrate listing) state =
      match (discover job.naming job.config.scriptDirectory listing).result with
      | .error error => ⟨.error (.discovery error), state, []⟩
      | .ok scripts =>
        if scripts.isEmpty then ⟨.ok .nothingFound, state, []⟩
        else Task.trace session (job.migrateScripts scripts) state := by
  unfold migrate discoverScripts
  simp only [Task.trace_bind, Task.trace_sayAll, Trace.pure_bind, Task.trace_ofExcept]
  rcases (discover job.naming job.config.scriptDirectory listing).result with error | scripts
  · rfl
  · cases scripts <;> simp [Except.mapError]

/-- How a run ends when its session is closed: a failure of the run itself goes before a failure of
closing. -/
def closed {α : Type} (result : Except MigrationError α) :
    Option SessionError → Except MigrationError α
  | none => result
  | some error =>
    match result with
    | .ok _ => .error (.close error)
    | .error first => .error first

@[simp] theorem closed_error {α : Type} (error : MigrationError) (close : Option SessionError) :
    closed (.error error : Except MigrationError α) close = .error error := by
  cases close <;> rfl

theorem trace_finish {α : Type} (outcome : Except MigrationError α) (state : σ) :
    Task.trace session (finish outcome) state =
      ⟨closed outcome (session.close state).1, (session.close state).2, []⟩ := by
  have hclosing : ∀ state, Task.trace session
      (ExceptT.lift Dialogue.closing : Task MigrationError (Option SessionError)) state =
        ⟨.ok (session.close state).1, (session.close state).2, []⟩ := fun _ => rfl
  unfold finish
  rcases hclose : (session.close state).1 with _ | error <;> rcases outcome with first | value <;>
    simp [hclosing, hclose, closed]

/-- Closing the session at the end of a task sends nothing. -/
theorem trace_closingAfter {α : Type} (task : Task MigrationError α) (state : σ) :
    Task.trace session (closingAfter task) state =
      ⟨closed (Task.trace session task state).result
          (session.close (Task.trace session task state).state).1,
        (session.close (Task.trace session task state).state).2,
        (Task.trace session task state).sent⟩ := by
  have hplay := Dialogue.play_bind session task.run (fun outcome => (finish outcome).run) state
  have hsent := Dialogue.exchanges_bind session task.run (fun outcome => (finish outcome).run) state
  have hfinish := trace_finish session (Task.trace session task state).result
    (Task.trace session task state).state
  simp only [Task.trace, Trace.mk.injEq] at hfinish
  rw [hfinish.2.2, List.append_nil] at hsent
  rw [hfinish.1, hfinish.2.1] at hplay
  simp only [Task.trace, Trace.mk.injEq]
  exact ⟨hplay.1, hplay.2, hsent⟩

/-- An error that is not about the end of the session is that of the task. -/
theorem closed_eq_error {α : Type} {result : Except MigrationError α}
    {close : Option SessionError} {error : MigrationError}
    (hother : ∀ reason, error ≠ .close reason) :
    closed result close = .error error ↔ result = .error error := by
  cases close with
  | none => rfl
  | some reason =>
      cases result with
      | error first => rfl
      | ok value => simpa [closed] using (hother reason).symm

/-- So such an error of a task whose session is closed is that of the task. -/
theorem closingAfter_eq_error {α : Type} (task : Task MigrationError α) (state : σ)
    {error : MigrationError} (hother : ∀ reason, error ≠ .close reason) :
    (Task.trace session (closingAfter task) state).result = .error error ↔
      (Task.trace session task state).result = .error error := by
  rw [trace_closingAfter]
  exact closed_eq_error hother

/-- Only a run itself can find that a script has changed. -/
theorem closed_eq_modified {α : Type} {result : Except MigrationError α}
    {close : Option SessionError} {name table : String} :
    closed result close = .error (.modified name table) ↔
      result = .error (.modified name table) :=
  closed_eq_error (by simp)

/-- Up to the end of the session, a run over a directory with scripts is its bootstrap and what
follows it. -/
theorem trace_migrate_of_found (job : Job) {listing : Listing} {scripts : List Script}
    (hfound : (discover job.naming job.config.scriptDirectory listing).result = .ok scripts)
    (hne : scripts ≠ []) (state : σ) :
    Task.trace session (job.migrate listing) state =
      (Task.trace session (job.ledger.bootstrap job.timeout job.config.replication
        job.config.refresh) state).bind
        fun action state => job.resume session scripts action state := by
  have hempty : ¬ scripts.isEmpty = true := by simpa using hne
  rw [trace_migrate, hfound]
  simp only [hempty, if_false, Bool.false_eq_true]
  exact trace_migrateScripts session job scripts (version_le_of_discover hfound) state

/-- A run over a directory with scripts is its bootstrap, what follows it, and the end of the
session. -/
theorem trace_run (job : Job) {listing : Listing} {scripts : List Script}
    (hfound : (discover job.naming job.config.scriptDirectory listing).result = .ok scripts)
    (hne : scripts ≠ []) (state : σ) :
    let body := (Task.trace session (job.ledger.bootstrap job.timeout job.config.replication
        job.config.refresh) state).bind fun action state => job.resume session scripts action state
    Task.trace session (job.run listing) state =
      ⟨closed body.result (session.close body.state).1, (session.close body.state).2,
        body.sent⟩ := by
  intro body
  exact (trace_closingAfter session (job.migrate listing) state).trans
    (by rw [trace_migrate_of_found session job hfound hne])

/-- Where closing the session neither fails nor changes anything, a run over a directory with
scripts comes to what its scripts come to. -/
theorem trace_run_of_closes (job : Job) (hclose : ∀ state, session.close state = (none, state))
    {listing : Listing} {scripts : List Script}
    (hfound : (discover job.naming job.config.scriptDirectory listing).result = .ok scripts)
    (hne : scripts ≠ []) (state : σ) :
    Task.trace session (job.run listing) state =
      Task.trace session (job.migrateScripts scripts) state := by
  have hempty : ¬ scripts.isEmpty = true := by simpa using hne
  have hrun : Task.trace session (job.run listing) state = _ :=
    trace_closingAfter session (job.migrate listing) state
  rw [hrun, trace_migrate, hfound]
  simp only [hempty, if_false, Bool.false_eq_true, hclose, closed]

/-- A run without refresh goes on to the ledger at once if there are tables. -/
theorem trace_run_of_tables {job : Job} {listing : Listing} {scripts : List Script}
    (hrefresh : job.config.refresh = false)
    (hfound : (discover job.naming job.config.scriptDirectory listing).result = .ok scripts)
    (hne : scripts ≠ []) {state : σ} {tables : List Row}
    (htables : (session.ask job.timeout job.ledger.listTables job.ledger.bootstrapError
      state).result = .ok (.ofRows tables)) (hpresent : tables ≠ []) :
    let listed := session.ask job.timeout job.ledger.listTables job.ledger.bootstrapError state
    let rest := job.resume session scripts .unchanged listed.state
    Task.trace session (job.run listing) state =
      ⟨closed rest.result (session.close rest.state).1, (session.close rest.state).2,
        listed.sent ++ rest.sent⟩ := by
  intro listed rest
  have hboot := Ledger.trace_bootstrap_of_tables session htables hpresent job.config.replication
  rw [trace_run session job hfound hne state, hrefresh, hboot]
  rfl

/-- A run that finds no scripts only ends the session. -/
theorem trace_run_of_not_found (job : Job) (listing : Listing)
    (h : ∀ scripts, (discover job.naming job.config.scriptDirectory listing).result = .ok scripts →
      scripts = []) (state : σ) :
    ∃ result, Task.trace session (job.run listing) state =
      ⟨result, (session.close state).2, []⟩ := by
  have hmigrate : ∃ result, Task.trace session (job.migrate listing) state =
      ⟨result, state, []⟩ := by
    rw [trace_migrate]
    rcases hfound : (discover job.naming job.config.scriptDirectory listing).result with
      error | scripts
    · exact ⟨_, rfl⟩
    · exact ⟨.ok .nothingFound, by simp [h scripts hfound]⟩
  obtain ⟨result, hmigrate⟩ := hmigrate
  refine ⟨closed result (session.close state).1, ?_⟩
  exact (trace_closingAfter session (job.migrate listing) state).trans (by rw [hmigrate])

theorem sent_run_of_not_found (job : Job) (listing : Listing)
    (h : ∀ scripts, (discover job.naming job.config.scriptDirectory listing).result = .ok scripts →
      scripts = []) (state : σ) : (Task.trace session (job.run listing) state).sent = [] := by
  obtain ⟨result, hrun⟩ := trace_run_of_not_found session job listing h state
  rw [hrun]

theorem closed_eq_ok {α : Type} {result : Except MigrationError α} {close : Option SessionError}
    {value : α} (h : closed result close = .ok value) : result = .ok value := by
  cases close with
  | none => exact h
  | some error => cases result <;> cases h

theorem close_of_closed_eq_ok {α : Type} {result : Except MigrationError α}
    {close : Option SessionError} {value : α} (h : closed result close = .ok value) :
    close = none := by
  cases close with
  | none => rfl
  | some error => cases result <;> cases h

/-- A run that succeeds has sent no statement in vain. -/
theorem run_strict (job : Job) (listing : Listing) (state : σ) :
    (Task.trace session (job.run listing) state).Strict job.timeout := by
  have hmigrate : (Task.trace session (job.migrate listing) state).Strict job.timeout := by
    rw [trace_migrate]
    rcases hfound : (discover job.naming job.config.scriptDirectory listing).result with
      error | scripts
    · exact .of_sent_nil rfl
    · by_cases hempty : scripts.isEmpty = true
      · simp only [hempty, if_true]
        exact .of_sent_nil rfl
      · simp only [hempty, if_false, Bool.false_eq_true]
        rw [trace_migrateScripts session job scripts (version_le_of_discover hfound)]
        apply Trace.Strict.bind (Ledger.bootstrap_strict session job.ledger job.timeout _ _ state)
        intro action state
        exact resume_strict session job scripts action state
  intro report hreport
  -- an error in closing would not have become a report
  have hclosing := trace_closingAfter session (job.migrate listing) state
  have hrun : Task.trace session (job.run listing) state = _ := hclosing
  rw [hrun] at hreport ⊢
  exact hmigrate report (closed_eq_ok hreport)

end Job

end SchemaMigration
