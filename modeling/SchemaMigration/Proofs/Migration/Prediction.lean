import SchemaMigration.Proofs.Migration.Inspection
import SchemaMigration.Proofs.Migration.Plan
import SchemaMigration.Proofs.Migration.Resumption

/-!
# What a status foretells

A status and a run look at the ledger each in its own way, but they decide on it alike. So a status
tells what a run from the same store would do, as long as both get the same answers.

* `Session.Reads`: the session answers the queries of a ledger from the store alone.
* `Run.run_of_tables`: over a keyspace with tables, a run does what is told of its ledger.
* `Run.foretold`: from the same store, a run does what a status tells.
* `Store.session_reads`: the store in memory answers from what it holds.
-/

namespace SchemaMigration

/-- How the two queries of a ledger are answered from a store. -/
structure QueryAnswers where
  tables : Store → Except SessionError (List Row)
  rows : Store → Except SessionError (List Row)

namespace Session

variable {σ ε : Type} {session : Session σ} {timeout : Nat}

/-- In this state the statement is answered in time, with rows or with an error. -/
def Answers (session : Session σ) (timeout : Nat) (statement : Statement) (state : σ)
    (answer : Except SessionError (List Row)) : Prop :=
  (session.send state (statement.withTimeout timeout)).1.elapsed ≤ timeout ∧
    (session.send state (statement.withTimeout timeout)).1.answer = answer.map .ofRows

theorem Answers.ask {statement : Statement} {state : σ} {answer : Except SessionError (List Row)}
    (h : session.Answers timeout statement state answer) (wrap : SessionError → ε) :
    (session.ask timeout statement wrap state).result = (answer.map .ofRows).mapError wrap := by
  obtain ⟨hinTime, hanswer⟩ := h
  have hnot : ¬ timeout < (session.send state (statement.withTimeout timeout)).1.elapsed :=
    Nat.not_lt.mpr hinTime
  rcases answer with error | rows
  · have hrows : (session.send state (statement.withTimeout timeout)).1.rows? timeout = none := by
      simp [Reply.rows?, hnot, hanswer, Except.map]
    rw [session.ask_result_of_none timeout hrows]
    simp [Reply.fault, hnot, hanswer, Except.map, Except.mapError]
  · apply session.ask_result_of_some
    simp [Reply.rows?, hnot, hanswer, Except.map, Answer.ofRows]

/-- The session answers the queries of a ledger in time and from the store alone. -/
structure Reads (session : Session σ) (view : σ → Store) (l : Ledger) (timeout : Nat)
    (reading : QueryAnswers) : Prop where
  tables : ∀ state, session.Answers timeout l.listTables state (reading.tables (view state))
  rows : ∀ state, session.Answers timeout l.selectRows state (reading.rows (view state))

end Session

namespace Run

variable {fate fate' : FailedWrite} {r : Run fate} {s : Run fate'} {reading : QueryAnswers}
  {scripts : List Script}

/-- A status and a run with the same configuration and directory, from the same store. Their
sessions answer the queries alike, and that of the status can be closed if that of the run can. -/
structure Alongside (s : Run fate') (r : Run fate) (reading : QueryAnswers) : Prop where
  config : s.job.config = r.job.config
  naming : s.job.naming = r.job.naming
  dialect : s.job.dialect = r.job.dialect
  listing : s.listing = r.listing
  before : s.before = r.before
  statusReads : s.session.Reads s.view s.job.ledger s.job.timeout reading
  runReads : r.session.Reads r.view r.job.ledger r.job.timeout reading
  closes : ∀ state state', (r.session.close state).1 = none →
    (s.session.close state').1 = none

namespace Alongside

variable (h : Alongside s r reading)
include h

theorem ledger : s.job.ledger = r.job.ledger := by
  simp [Job.ledger, h.config, h.dialect]

theorem discovered : s.discovered = r.discovered := by
  simp [Run.discovered, h.config, h.naming, h.listing]

theorem survey (rows : List Row) : s.job.survey scripts rows = r.job.survey scripts rows := by
  simp [Job.survey, Job.statusOf, h.ledger, h.config]

theorem run_lists :
    (r.session.ask r.job.timeout r.job.ledger.listTables r.job.ledger.bootstrapError
      r.start).result =
    ((reading.tables r.before).map .ofRows).mapError r.job.ledger.bootstrapError :=
  (h.runReads.tables r.start).ask r.job.ledger.bootstrapError

theorem status_lists :
    (s.session.ask s.job.timeout s.job.ledger.listTables
      (MigrationError.ledgerRead s.job.ledger.qualified) s.start).result =
    ((reading.tables r.before).map .ofRows).mapError (.ledgerRead s.job.ledger.qualified) := by
  rw [← h.before]
  exact (h.statusReads.tables s.start).ask (MigrationError.ledgerRead s.job.ledger.qualified)

/-- Listing the tables has not changed what the ledger is read from. -/
theorem run_reads :
    let listed := r.session.ask r.job.timeout r.job.ledger.listTables r.job.ledger.bootstrapError
      r.start
    (r.session.ask r.job.timeout r.job.ledger.selectRows
      (MigrationError.ledgerRead r.job.ledger.qualified) listed.state).result =
    ((reading.rows r.before).map .ofRows).mapError (.ledgerRead r.job.ledger.qualified) := by
  intro listed
  have hsame : r.view listed.state = r.before :=
    (r.keeps.ask_query (.inl rfl) r.job.ledger.bootstrapError r.start).1
  rw [← hsame]
  exact (h.runReads.rows listed.state).ask (MigrationError.ledgerRead r.job.ledger.qualified)

theorem status_reads :
    let listed := s.session.ask s.job.timeout s.job.ledger.listTables
      (MigrationError.ledgerRead s.job.ledger.qualified) s.start
    (s.session.ask s.job.timeout s.job.ledger.selectRows
      (MigrationError.ledgerRead s.job.ledger.qualified) listed.state).result =
    ((reading.rows r.before).map .ofRows).mapError (.ledgerRead s.job.ledger.qualified) := by
  intro listed
  have hsame : s.view listed.state = r.before :=
    (s.keeps.ask_query (.inl rfl) (MigrationError.ledgerRead s.job.ledger.qualified)
      s.start).1.trans h.before
  rw [← hsame]
  exact (h.statusReads.rows listed.state).ask (MigrationError.ledgerRead s.job.ledger.qualified)

/-- If the run succeeds, the session of the status can be closed. -/
theorem status_closes (hfound : r.discovered = .ok scripts) (hne : scripts ≠ []) {report : Report}
    (hok : r.trace.result = .ok report) (state : s.σ) : (s.session.close state).1 = none := by
  rw [trace_eq hfound hne] at hok
  exact h.closes _ state (Job.close_of_closed_eq_ok hok)

end Alongside

/-- What a status foretells of a run. -/
structure Foretold (s : Run fate') (r : Run fate) : Prop where
  /-- If the run succeeds, so does the status. It tells what the run applies, and on top of what. -/
  succeeds : ∀ report, r.trace.result = .ok report → ∃ status, s.status.result = .ok status ∧
    report.previousVersion = status.lastApplied ∧
    report.applied.map (fun a => (a.version, a.name)) =
      status.pending.map (fun p => (p.version, p.name)) ∧
    status.modified = [] ∧
    report.keyspace = some (if status.keyspacePresent then .unchanged else .created)
  /-- If the status reports changed scripts, the run fails at the first of them. -/
  changed : ∀ status name names, s.status.result = .ok status → status.modified = name :: names →
    r.trace.result = .error (.modified name r.job.ledger.qualified)
  /-- If the status fails in reading the ledger, the run fails in the same way. -/
  unreadable : ∀ error, s.status.result = .error error → error.AboutLedger →
    (∃ e ∈ s.status.sent, e.statement = s.job.ledger.selectRows.withTimeout s.job.timeout) →
    r.trace.result = .error error

/-- If the tables cannot be listed, neither of them succeeds, and the status does not get as far as
the ledger. -/
theorem foretold_of_unlisted (h : Alongside s r reading) (hfound : r.discovered = .ok scripts)
    (hne : scripts ≠ []) {error : SessionError} (htables : reading.tables r.before = .error error) :
    Foretold s r := by
  have hlisted := h.run_lists
  have hlisted' := h.status_lists
  rw [htables] at hlisted hlisted'
  have hrun : ∀ report, r.trace.result ≠ .ok report := by
    intro report hok
    rw [trace_eq hfound hne, bootstrap, Ledger.trace_bootstrap, Trace.bind_of_error hlisted,
      Trace.bind_of_error rfl] at hok
    cases Job.closed_eq_ok hok
  have hstatus := status_eq (h.discovered.trans hfound)
  rw [Job.inspectScripts, Trace.bind_of_error hlisted'] at hstatus
  refine ⟨fun report hok => absurd hok (hrun report), ?_, ?_⟩
  · intro status name names hok
    rw [hstatus] at hok
    cases Job.closed_eq_ok hok
  · rintro other - - ⟨e, he, hselect⟩
    rw [hstatus, Session.ask_sent, List.mem_singleton] at he
    rw [he] at hselect
    exact absurd hselect (Job.listTables_ne_selectRows s.job.ledger s.job.timeout)

/-- If there are no tables, the run creates the keyspace and applies everything. -/
theorem foretold_of_no_tables (h : Alongside s r reading) (hfound : r.discovered = .ok scripts)
    (hne : scripts ≠ []) (htables : reading.tables r.before = .ok []) : Foretold s r := by
  have hlisted := h.run_lists
  have hlisted' := h.status_lists
  rw [htables] at hlisted hlisted'
  have hstatus := status_eq (h.discovered.trans hfound)
  simp only [Job.inspectScripts_of_no_tables _ hlisted'] at hstatus
  refine ⟨?_, ?_, ?_⟩
  · intro report hok
    refine ⟨s.job.statusOf scripts false [], ?_, ?_⟩
    · rw [hstatus, h.status_closes hfound hne hok]
      rfl
    rcases bootstrap_cases hfound hne with ⟨error, -, herror, -⟩ | ⟨action, hpast⟩
    · cases hok.symm.trans herror
    · obtain rfl := Ledger.action_of_no_tables r.session hlisted hpast
      obtain ⟨-, -, close, hresult⟩ := trace_of_bootstrap hfound hne hpast
      obtain ⟨rows, due, hread, hduty, -, rfl⟩ := Job.resume_eq_ok r.session
        (Job.closed_eq_ok (hresult.symm.trans hok))
      -- a ledger that has just been created has no rows
      have hperm := Job.perm_of_ask_selectRows r.keeps hread
      rw [rowsIn_bootstrap hpast] at hperm
      obtain rfl : rows = [] := hperm.eq_nil
      rw [Job.duty_nil] at hduty
      obtain rfl := Except.ok.inj hduty
      refine ⟨rfl, ?_, rfl, rfl⟩
      simp [Job.reportOf, Job.statusOf, Ledger.recordOf, lastVersion]
  · intro status name names hok hmodified
    rw [hstatus] at hok
    rw [← Except.ok.inj (Job.closed_eq_ok hok)] at hmodified
    cases hmodified
  · rintro error herror habout -
    rw [hstatus, Job.closed_eq_error habout.ne_close] at herror
    cases herror

/-- What is told of a ledger that gives an answer. -/
def told (r : Run fate) (scripts : List Script) (answer : Except SessionError (List Row)) :
    Except MigrationError Status :=
  (answer.mapError (.ledgerRead r.job.ledger.qualified)).bind (r.job.survey scripts)

theorem present_of_told {answer : Except SessionError (List Row)} {status : Status}
    (h : r.told scripts answer = .ok status) : status.keyspacePresent = true := by
  rcases answer with error | rows
  · cases h
  · exact Job.present_of_survey h

/-- If there are tables, a status tells of the ledger. -/
theorem status_of_tables (h : Alongside s r reading) (hfound : r.discovered = .ok scripts)
    {tables : List Row} (htables : reading.tables r.before = .ok tables) (hpresent : tables ≠ []) :
    ∃ state, s.status.result =
      Job.closed (r.told scripts (reading.rows r.before)) (s.session.close state).1 := by
  have hlisted := h.status_lists
  have hread := h.status_reads
  rw [htables] at hlisted
  have hstatus := status_eq (h.discovered.trans hfound)
  simp only [Job.inspectScripts_of_tables _ hlisted hpresent, hread] at hstatus
  rw [hstatus, told, ← h.ledger]
  refine ⟨_, congrArg (Job.closed · _) ?_⟩
  rcases reading.rows r.before with error | rows
  · rfl
  · exact h.survey rows

/-- If there are tables, a run without refresh fails as is told, or at the first changed script that
is told of, or it applies what is told to be pending. -/
theorem run_of_tables (h : Alongside s r reading) (hrefresh : r.job.config.refresh = false)
    (hfound : r.discovered = .ok scripts) (hne : scripts ≠ []) {tables : List Row}
    (htables : reading.tables r.before = .ok tables) (hpresent : tables ≠ []) :
    (∀ error, r.told scripts (reading.rows r.before) = .error error →
      r.trace.result = .error error) ∧
    ∀ status, r.told scripts (reading.rows r.before) = .ok status →
      (∀ name names, status.modified = name :: names →
        r.trace.result = .error (.modified name r.job.ledger.qualified)) ∧
      ∀ report, r.trace.result = .ok report → status.modified = [] ∧
        report = r.job.reportOf scripts .unchanged (status.lastApplied, status.pending) := by
  have hlisted := h.run_lists
  have hread := h.run_reads
  rw [htables] at hlisted
  have hrun : r.trace = _ :=
    Job.trace_run_of_tables r.session hrefresh hfound hne hlisted hpresent
  rcases hrows : reading.rows r.before with error | rows
  · rw [hrows] at hread
    refine ⟨?_, fun status htold => by cases htold⟩
    intro other hother
    rw [← Except.error.inj (hother : Except.error _ = _), hrun, Job.resume,
      Trace.bind_of_error hread]
    exact Job.closed_error _ _
  · rw [hrows] at hread
    have htold : r.told scripts (.ok rows) = r.job.survey scripts rows := rfl
    have hduty := r.job.duty_of_survey scripts rows
    rw [htold]
    -- the run decides on the rows as the status does
    refine ⟨?_, ?_⟩
    · intro error herror
      rw [herror] at hduty
      simp only [hrun, Job.resume_of_duty_error r.session hread hduty]
      exact Job.closed_error _ _
    · intro status hstatus
      rw [hstatus] at hduty
      simp only [Except.bind] at hduty
      refine ⟨?_, ?_⟩
      · intro name names hmodified
        simp only [hmodified] at hduty
        simp only [hrun, Job.resume_of_duty_error r.session hread hduty]
        exact Job.closed_error _ _
      · intro report hok
        rw [hrun] at hok
        obtain ⟨rows', due, hread', hdue, -, rfl⟩ := Job.resume_eq_ok r.session
          (Job.closed_eq_ok hok)
        obtain rfl : rows' = rows := congrArg Answer.rows (Except.ok.inj (hread'.symm.trans hread))
        rw [hduty] at hdue
        rcases hmodified : status.modified with _ | ⟨name, names⟩
        · simp only [hmodified, Except.ok.injEq] at hdue
          exact ⟨rfl, by rw [hdue]⟩
        · simp [hmodified] at hdue

theorem foretold_of_tables (h : Alongside s r reading) (hrefresh : r.job.config.refresh = false)
    (hfound : r.discovered = .ok scripts) (hne : scripts ≠ []) {tables : List Row}
    (htables : reading.tables r.before = .ok tables) (hpresent : tables ≠ []) : Foretold s r := by
  obtain ⟨state, hstatus⟩ := status_of_tables h hfound htables hpresent
  obtain ⟨hfails, hgoes⟩ := run_of_tables h hrefresh hfound hne htables hpresent
  refine ⟨?_, ?_, ?_⟩
  · intro report hok
    rcases htold : r.told scripts (reading.rows r.before) with error | status
    · cases hok.symm.trans (hfails error htold)
    · obtain ⟨hmodified, rfl⟩ := (hgoes status htold).2 report hok
      refine ⟨status, ?_, rfl, ?_, hmodified, ?_⟩
      · rw [hstatus, htold, h.status_closes hfound hne hok]
        rfl
      · simp [Job.reportOf, Ledger.recordOf]
      · simp [Job.reportOf, present_of_told htold]
  · intro status name names hok hmodified
    have htold := Job.closed_eq_ok (hstatus.symm.trans hok)
    exact (hgoes status htold).1 name names hmodified
  · rintro error herror habout -
    rw [hstatus, Job.closed_eq_error habout.ne_close] at herror
    exact hfails error herror

/-- **Status foretells run.** From the same store, with answers from it alone, a run without refresh
does what a status tells. -/
theorem foretold (h : Alongside s r reading) (hrefresh : r.job.config.refresh = false)
    (hfound : r.discovered = .ok scripts) (hne : scripts ≠ []) : Foretold s r := by
  -- both list the tables first, and get the same answer
  rcases htables : reading.tables r.before with error | tables
  · exact foretold_of_unlisted h hfound hne htables
  · by_cases hpresent : tables = []
    · exact foretold_of_no_tables h hfound hne (hpresent ▸ htables)
    · exact foretold_of_tables h hrefresh hfound hne htables hpresent

end Run

/-! ## The store in memory -/

namespace Store

variable {l : Ledger}

/-- How the store in memory answers a request. -/
def answerTo (l : Ledger) (r : Ledger.Request) (s : Store) : Except SessionError (List Row) :=
  ((r.outcome l s).answer.map (·.rows)).mapError (.execution (r.statement l).text)

theorem session_answers (dialect : Dialect) (hcolumn :
      Text.occursIn "checksum".toList l.createTable.text.toList = l.checksums) (timeout : Nat)
    (r : Ledger.Request) (s : Store) :
    (session dialect).Answers timeout (r.statement l) s (answerTo l r s) := by
  unfold Session.Answers answerTo
  simp only [session, send_statement hcolumn]
  refine ⟨Nat.zero_le timeout, ?_⟩
  rcases l.outcome_cases s r with ⟨rows, s', houtcome⟩ | ⟨reason, houtcome⟩ <;>
    simp [houtcome, Except.map, Except.mapError, Answer.ofRows]

/-- The store in memory answers queries from what it holds. -/
theorem session_reads (dialect : Dialect) (hcolumn :
      Text.occursIn "checksum".toList l.createTable.text.toList = l.checksums) (timeout : Nat) :
    (session dialect).Reads id l timeout ⟨answerTo l .listTables, answerTo l .selectRows⟩ where
  tables := session_answers dialect hcolumn timeout .listTables
  rows := session_answers dialect hcolumn timeout .selectRows

end Store

/-- A status and a run over the store with a row for the first script. -/
theorem Run.foretold_sample :
    let r := Sample.run (fun _ => false) Sample.halfway
    let reading : QueryAnswers := ⟨Store.answerTo Sample.job.ledger .listTables,
      Store.answerTo Sample.job.ledger .selectRows⟩
    Alongside r r reading ∧ r.job.config.refresh = false ∧
      r.discovered = .ok Sample.scripts ∧ Sample.scripts ≠ [] ∧ Foretold r r := by
  intro r reading
  have hreads : r.session.Reads r.view r.job.ledger r.job.timeout reading :=
    Store.session_reads .cql Sample.hasColumn Sample.job.timeout
  have halongside : Alongside r r reading :=
    ⟨rfl, rfl, rfl, rfl, rfl, hreads, hreads, fun _ _ _ => rfl⟩
  have hfound : r.discovered = .ok Sample.scripts := Sample.discovered _ _
  have hne : Sample.scripts ≠ [] := List.cons_ne_nil _ _
  exact ⟨halongside, rfl, hfound, hne, foretold halongside rfl hfound hne⟩

end SchemaMigration
