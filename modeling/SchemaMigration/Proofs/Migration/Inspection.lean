import SchemaMigration.Proofs.Migration.Run

/-!
# The course of a status

A status asks for the tables of the keyspace and, if there are any, reads the ledger. Nothing else
is sent.

* `Job.statusOf`: what is told of records in the order of their versions.
* `Job.trace_status`: the whole status.
* `Job.Looks`: what a status sends, and for what answers; `Job.looks_status`: so it does.
* `Job.inspectScripts_cases`: with a session that keeps a store, it leaves the store alone and tells
  of the stored rows.
* `Run.status`: a status in place of a run.
-/

namespace SchemaMigration

namespace Job

variable {σ : Type} (session : Session σ)

/-- How records in the order of their versions stand against some scripts. -/
def statusOf (job : Job) (scripts : List Script) (present : Bool) (records : List AppliedScript) :
    Status where
  keyspace := job.config.keyspace.text
  keyspacePresent := present
  lastApplied := lastVersion records
  applied := records
  pending := pending scripts (lastVersion records)
  modified := modifiedNames scripts records

/-- What is told of the rows of the ledger. -/
def survey (job : Job) (scripts : List Script) (rows : List Row) : Except MigrationError Status :=
  (job.ledger.decodeRows rows).map fun records =>
    job.statusOf scripts true (Ledger.sortRecords records)

/-- A run decides on what a status tells: it stops at the first script that is reported as changed,
and else it applies what is reported as pending. -/
theorem duty_of_survey (job : Job) (scripts : List Script) (rows : List Row) :
    job.duty scripts rows = (job.survey scripts rows).bind fun status =>
      match status.modified with
      | name :: _ => .error (.modified name job.ledger.qualified)
      | [] => .ok (status.lastApplied, status.pending) := by
  unfold duty survey
  rcases job.ledger.decodeRows rows with error | records
  · rfl
  · rcases hnames : modifiedNames scripts (Ledger.sortRecords records) with _ | ⟨name, names⟩ <;>
      simp [Except.map, Except.bind, statusOf, hnames, Ledger.lastVersion_sortRecords]

theorem survey_of_duty {job : Job} {scripts : List Script} {rows : List Row}
    {due : Version × List Script} (h : job.duty scripts rows = .ok due) :
    ∃ status, job.survey scripts rows = .ok status ∧ status.lastApplied = due.1 ∧
      status.pending = due.2 ∧ status.modified = [] := by
  rw [duty_of_survey] at h
  rcases hsurvey : job.survey scripts rows with error | status
  · simp [hsurvey, Except.bind] at h
  · rcases hmodified : status.modified with _ | ⟨name, names⟩
    · simp only [hsurvey, Except.bind, hmodified, Except.ok.injEq] at h
      rw [← h]
      exact ⟨status, rfl, rfl, rfl, hmodified⟩
    · simp [hsurvey, Except.bind, hmodified] at h

/-- The part of a status that comes after the discovery. -/
def inspectScripts (job : Job) (scripts : List Script) (state : σ) :
    Trace σ MigrationError Status :=
  (session.ask job.timeout job.ledger.listTables (.ledgerRead job.ledger.qualified) state).bind
    fun answer state =>
      if answer.rows.isEmpty then ⟨.ok (job.statusOf scripts false []), state, []⟩
      else (session.ask job.timeout job.ledger.selectRows (.ledgerRead job.ledger.qualified)
        state).bind fun answer state => ⟨job.survey scripts answer.rows, state, []⟩

theorem trace_inspect (job : Job) (listing : Listing) (state : σ) :
    Task.trace session (job.inspect listing) state =
      match (discover job.naming job.config.scriptDirectory listing).result with
      | .error error => ⟨.error (.discovery error), state, []⟩
      | .ok scripts => job.inspectScripts session scripts state := by
  unfold inspect inspectScripts discoverScripts Ledger.keyspaceExists checkModified
  simp only [Task.trace_bind, Task.trace_sayAll, Trace.pure_bind, Task.trace_ofExcept,
    Task.trace_execute, Trace.bind_assoc, Task.trace_pure]
  rcases (discover job.naming job.config.scriptDirectory listing).result with error | scripts
  · rfl
  · simp only [Except.mapError, Trace.pure_bind]
    congr 1
    funext answer state
    rcases hempty : answer.rows.isEmpty with _ | _
    · simp only [Ledger.readRecords, Task.trace_bind, Task.trace_execute, Trace.bind_assoc,
        Task.trace_ofExcept, Task.trace_pure, Bool.not_false, if_true, Bool.false_eq_true, if_false]
      congr 1
      funext answer state
      rcases hrows : job.ledger.decodeRows answer.rows with error | records
      · simp [survey, hrows, Trace.bind, Except.map]
      · simp [survey, hrows, Except.map, statusOf]
    · simp [statusOf]

/-- A status is two queries at most, and the end of the session. -/
theorem trace_status (job : Job) {listing : Listing} {scripts : List Script}
    (hfound : (discover job.naming job.config.scriptDirectory listing).result = .ok scripts)
    (state : σ) :
    let body := job.inspectScripts session scripts state
    Task.trace session (job.status listing) state =
      ⟨closed body.result (session.close body.state).1, (session.close body.state).2,
        body.sent⟩ := by
  intro body
  have hclosing := trace_closingAfter session (job.inspect listing) state
  rw [trace_inspect session job listing, hfound] at hclosing
  exact hclosing

theorem inspectScripts_of_no_tables {job : Job} {scripts : List Script} {state : σ}
    (h : (session.ask job.timeout job.ledger.listTables
      (MigrationError.ledgerRead job.ledger.qualified) state).result = .ok (.ofRows [])) :
    (job.inspectScripts session scripts state).result = .ok (job.statusOf scripts false []) := by
  rw [inspectScripts, Trace.bind_of_ok h]
  rfl

theorem inspectScripts_of_tables {job : Job} {scripts : List Script} {state : σ} {tables : List Row}
    (h : (session.ask job.timeout job.ledger.listTables
      (MigrationError.ledgerRead job.ledger.qualified) state).result = .ok (.ofRows tables))
    (hpresent : tables ≠ []) :
    let listed := session.ask job.timeout job.ledger.listTables
      (MigrationError.ledgerRead job.ledger.qualified) state
    let read := session.ask job.timeout job.ledger.selectRows
      (MigrationError.ledgerRead job.ledger.qualified) listed.state
    job.inspectScripts session scripts state =
      ⟨read.result.bind fun answer => job.survey scripts answer.rows, read.state,
        listed.sent ++ read.sent⟩ := by
  intro listed read
  have hempty : ¬ tables.isEmpty = true := by simpa using hpresent
  rw [inspectScripts, Trace.bind_of_ok h]
  simp only [Answer.ofRows, hempty, if_false, Bool.false_eq_true]
  rcases hread : read.result with error | answer
  · rw [Trace.bind_of_error hread]
    rfl
  · rw [Trace.bind_of_ok hread, List.append_nil]
    rfl

/-- What a status sends, in order. If the scripts cannot be discovered, it is nothing. Else it is the
question for the tables, and the ledger is read if, and only if, a table is answered in time. -/
def Looks (job : Job) (listing : Listing) (sent : List (Exchange σ)) : Prop :=
  match (discover job.naming job.config.scriptDirectory listing).result with
  | .error _ => sent = []
  | .ok _ =>
    ∃ asked : Exchange σ, asked.statement = job.ledger.listTables.withTimeout job.timeout ∧
      match asked.reply.rows? job.timeout with
      | some (_ :: _) => ∃ read : Exchange σ,
          read.statement = job.ledger.selectRows.withTimeout job.timeout ∧ sent = [asked, read]
      | _ => sent = [asked]

/-- Nothing but these two statements is sent, and each of them once at most. -/
theorem Looks.sublist {job : Job} {listing : Listing} {sent : List (Exchange σ)}
    (h : job.Looks listing sent) :
    (sent.map (·.statement)).Sublist [job.ledger.listTables.withTimeout job.timeout,
      job.ledger.selectRows.withTimeout job.timeout] := by
  unfold Looks at h
  split at h
  · simp [h]
  · obtain ⟨asked, hasked, hsent⟩ := h
    split at hsent
    · obtain ⟨read, hread, rfl⟩ := hsent
      simp [hasked, hread]
    · simp [hsent, hasked]

theorem Looks.length_le {job : Job} {listing : Listing} {sent : List (Exchange σ)}
    (h : job.Looks listing sent) : sent.length ≤ 2 := by
  simpa using h.sublist.length_le

theorem Looks.kind_eq {job : Job} {listing : Listing} {sent : List (Exchange σ)}
    (h : job.Looks listing sent) : ∀ e ∈ sent, e.statement.kind = .query := by
  intro e he
  have hmem := h.sublist.subset (List.mem_map_of_mem he)
  have hlist : job.ledger.listTables.kind = .query := by
    unfold Ledger.listTables
    split <;> rfl
  rcases List.mem_pair.mp hmem with hstatement | hstatement <;> rw [hstatement]
  · exact hlist
  · rfl

theorem looks_inspectScripts (job : Job) (scripts : List Script) (state : σ) :
    ∃ asked : Exchange σ, asked.statement = job.ledger.listTables.withTimeout job.timeout ∧
      match asked.reply.rows? job.timeout with
      | some (_ :: _) => ∃ read : Exchange σ,
          read.statement = job.ledger.selectRows.withTimeout job.timeout ∧
            (job.inspectScripts session scripts state).sent = [asked, read]
      | _ => (job.inspectScripts session scripts state).sent = [asked] := by
  obtain ⟨asked, hasked, -, hsent, ⟨tables, htables, hok⟩ | ⟨hnone, herror⟩⟩ := session.ask_cases
    job.timeout job.ledger.listTables (MigrationError.ledgerRead job.ledger.qualified) state
  · refine ⟨asked, hasked, ?_⟩
    rw [htables]
    rcases tables with _ | ⟨table, tables⟩
    · rw [inspectScripts, Trace.bind_of_ok hok, hsent]
      rfl
    · obtain ⟨read, hread, -, hreads, -⟩ := session.ask_cases job.timeout job.ledger.selectRows
        (MigrationError.ledgerRead job.ledger.qualified) (session.ask job.timeout
          job.ledger.listTables (MigrationError.ledgerRead job.ledger.qualified) state).state
      refine ⟨read, hread, ?_⟩
      rw [inspectScripts_of_tables session hok (List.cons_ne_nil table tables), hsent, hreads]
      rfl
  · refine ⟨asked, hasked, ?_⟩
    rw [hnone, inspectScripts, Trace.bind_of_error herror]
    exact hsent

/-- Whatever the session replies, a status only looks. -/
theorem looks_status (job : Job) (listing : Listing) (state : σ) :
    job.Looks listing (Task.trace session (job.status listing) state).sent := by
  have hsent : (Task.trace session (job.status listing) state).sent = _ :=
    congrArg Trace.sent (trace_closingAfter session (job.inspect listing) state)
  rw [trace_inspect] at hsent
  unfold Looks
  rcases hfound : (discover job.naming job.config.scriptDirectory listing).result with
    error | scripts
  · rw [hsent, hfound]
  · rw [hsent, hfound]
    exact job.looks_inspectScripts session scripts state

theorem present_of_survey {job : Job} {scripts : List Script} {rows : List Row} {status : Status}
    (h : job.survey scripts rows = .ok status) : status.keyspacePresent = true := by
  unfold survey at h
  rcases hrows : job.ledger.decodeRows rows with error | records
  · simp [hrows, Except.map] at h
  · simp only [hrows, Except.map, Except.ok.injEq] at h
    rw [← h]
    rfl

end Job

/-! ## Over a store -/

namespace Job

variable {σ : Type} {fate : FailedWrite} {session : Session σ} {view : σ → Store} {job : Job}

/-- A status ends with an error about the ledger, or tells that there are no tables, or tells of the
stored rows. -/
theorem inspectScripts_cases (hkeeps : session.Keeps fate view job.ledger job.timeout)
    (scripts : List Script) (state : σ) :
    let t := job.inspectScripts session scripts state
    view t.state = view state ∧ (∀ e ∈ t.sent, view e.after = view state) ∧
      ((∃ error, t.result = .error (.ledgerRead job.ledger.qualified error)) ∨
        ((job.ledger.tables? (view state)).getD [] = [] ∧
          t.result = .ok (job.statusOf scripts false [])) ∨
        ((job.ledger.tables? (view state)).getD [] ≠ [] ∧
          ∃ rows, rows.Perm ((job.rowsIn view state).map
              (Store.StoredRow.cells job.ledger.checksums)) ∧
            t.result = job.survey scripts rows)) := by
  intro t
  obtain ⟨e, hsent, -, hview, hcase⟩ := hkeeps.ask_cases_of_ne (r := .listTables) (by simp)
    (MigrationError.ledgerRead job.ledger.qualified) state
  simp only [Ledger.Request.statement] at hsent hview hcase
  rcases hcase with ⟨tables, hok, -, hdone⟩ | ⟨error, herror, -, hsame⟩
  · obtain ⟨hsame, hlisted⟩ := Ledger.Request.done_listTables hdone
    have ht : t = _ := Trace.bind_of_ok hok _
    rcases hempty : tables.isEmpty with _ | _
    · have hne : (job.ledger.tables? (view state)).getD [] ≠ [] := by
        intro hnil
        rw [hlisted.mpr hnil] at hempty
        cases hempty
      obtain ⟨f, hsent', hview', hsame', hcase'⟩ := ask_selectRows hkeeps
        (session.ask job.timeout job.ledger.listTables
          (MigrationError.ledgerRead job.ledger.qualified) state).state
      rw [hsame] at hview' hsame'
      have hmoments : ∀ g ∈ [e] ++ [f], view g.after = view state := by
        simp [hview.trans hsame, hview']
      have hrows : job.rowsIn view (session.ask job.timeout job.ledger.listTables
          (MigrationError.ledgerRead job.ledger.qualified) state).state = job.rowsIn view state :=
        congrArg job.ledger.storedRows hsame
      simp only [Answer.ofRows, hempty, Bool.false_eq_true, if_false] at ht
      rcases hcase' with ⟨rows, hok', hperm⟩ | ⟨error, herror'⟩
      · rw [Trace.bind_of_ok hok', hsent, hsent', List.append_nil] at ht
        rw [hrows] at hperm
        rw [ht]
        exact ⟨hsame', hmoments, .inr (.inr ⟨hne, rows, hperm, rfl⟩)⟩
      · rw [Trace.bind_of_error herror', hsent, hsent'] at ht
        rw [ht]
        exact ⟨hsame', hmoments, .inl ⟨error, rfl⟩⟩
    · have hnil : (job.ledger.tables? (view state)).getD [] = [] :=
        hlisted.mp (List.isEmpty_iff.mp hempty)
      simp only [Answer.ofRows, hempty, if_true, hsent, List.append_nil] at ht
      rw [ht]
      exact ⟨hsame, by simpa using hview.trans hsame, .inr (.inl ⟨hnil, rfl⟩)⟩
  · have ht : t = _ := Trace.bind_of_error herror _
    rw [ht, hsent]
    exact ⟨hsame, by simpa using hview.trans hsame, .inl ⟨error, rfl⟩⟩

end Job

namespace Run

variable {fate : FailedWrite}

/-- What a status in place of the run comes to. -/
def status (r : Run fate) : Trace r.σ MigrationError Status :=
  Task.trace r.session (r.job.status r.listing) r.start

variable {r : Run fate} {scripts : List Script}

theorem status_eq (hfound : r.discovered = .ok scripts) :
    let body := r.job.inspectScripts r.session scripts r.start
    r.status = ⟨Job.closed body.result (r.session.close body.state).1,
      (r.session.close body.state).2, body.sent⟩ :=
  Job.trace_status r.session r.job hfound r.start

theorem discovered_of_status {status : Status} (h : r.status.result = .ok status) :
    ∃ scripts, r.discovered = .ok scripts := by
  rcases hfound : r.discovered with error | scripts
  · unfold discovered at hfound
    have hclosing : r.status = _ :=
      Job.trace_closingAfter r.session (r.job.inspect r.listing) r.start
    rw [Job.trace_inspect, hfound] at hclosing
    rw [hclosing] at h
    cases Job.closed_eq_ok h
  · exact ⟨scripts, rfl⟩

end Run

end SchemaMigration
