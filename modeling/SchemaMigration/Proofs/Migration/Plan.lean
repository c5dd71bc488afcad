import SchemaMigration.Proofs.Migration.Course

/-!
# The plan of a run

Which statements a run sends, as a list. The list depends on two answers: the tables of the keyspace
decide the bootstrap, and the rows of the ledger decide which scripts are due.

* `Job.plan` is the list for given answers, and `Job.steps` are the steps with these statements.
* `Job.trace_migrateScripts_eq_attempt`: a run over some scripts attempts its steps.
* `Job.run_follows_plan`: with any session whatsoever a run sends the plan for the answers it gets,
  up to the first statement that fails.
-/

namespace SchemaMigration

variable {σ : Type}

/-- The rows that answer a statement where it is sent first; none if it does not succeed. -/
def answered (timeout : Nat) (statement : Statement) (sent : List (Exchange σ)) : List Row :=
  match sent.find? fun e => e.statement = statement.withTimeout timeout with
  | some e => (e.reply.rows? timeout).getD []
  | none => []

theorem answered_cons_self {timeout : Nat} {statement : Statement} {e : Exchange σ}
    {rows : List Row} (h : e.statement = statement.withTimeout timeout)
    (hrows : e.reply.rows? timeout = some rows) (sent : List (Exchange σ)) :
    answered timeout statement (e :: sent) = rows := by
  simp [answered, h, hrows]

/-- What is sent before does not matter if it is other statements. -/
theorem answered_append {timeout : Nat} {statement : Statement} {before : List (Exchange σ)}
    (h : ∀ e ∈ before, e.statement ≠ statement.withTimeout timeout) (sent : List (Exchange σ)) :
    answered timeout statement (before ++ sent) = answered timeout statement sent := by
  have hnone : before.find? (fun e => e.statement = statement.withTimeout timeout) = none := by
    rw [List.find?_eq_none]
    intro e he
    simpa using h e he
  simp [answered, List.find?_append, hnone]

namespace Job

/-- The scripts that a run has to apply: those newer than every record, unless a row is no record or
an applied script has changed. -/
def dueScripts (job : Job) (scripts : List Script) (rows : List Row) : List Script :=
  match job.ledger.decodeRows rows with
  | .error _ => []
  | .ok records =>
    if modifiedNames scripts records = [] then pending scripts (newestVersion records) else []

/-- The statements of a run with scripts, for the tables of the keyspace and the rows of the
ledger: the existence query, the bootstrap, the reading of the ledger, and for each script that is
due its statements and its record. -/
def plan (job : Job) (scripts : List Script) (tables rows : List Row) : List Statement :=
  [job.ledger.listTables.withTimeout job.timeout] ++
  (job.statementsOf
      (job.ledger.bootstrapSteps job.config.replication job.config.refresh tables) ++
    ([job.ledger.selectRows.withTimeout job.timeout] ++
      job.statementsOf (job.dueSteps 0 (job.dueScripts scripts rows))))

/-- The statements of a run over a directory. Without a script there is none. -/
def planOf (job : Job) (listing : Listing) (tables rows : List Row) : List Statement :=
  match (discover job.naming job.config.scriptDirectory listing).result with
  | .error _ => []
  | .ok scripts => if scripts.isEmpty then [] else job.plan scripts tables rows

theorem dueScripts_of_duty {job : Job} {scripts : List Script} {rows : List Row}
    {due : Version × List Script} (h : job.duty scripts rows = .ok due) :
    job.dueScripts scripts rows = due.2 := by
  unfold duty at h
  unfold dueScripts
  rcases hrows : job.ledger.decodeRows rows with error | records
  · simp [hrows] at h
  · rcases hnames : modifiedNames scripts (Ledger.sortRecords records) with _ | ⟨name, names⟩
    · have hnil := (modifiedNames_sortRecords_eq_nil scripts records).mp hnames
      simp only [hrows, hnames, Except.ok.injEq] at h
      simp [hnil, ← h]
    · simp [hrows, hnames] at h

theorem dueScripts_of_duty_error {job : Job} {scripts : List Script} {rows : List Row}
    {error : MigrationError} (h : job.duty scripts rows = .error error) :
    job.dueScripts scripts rows = [] := by
  unfold duty at h
  unfold dueScripts
  rcases hrows : job.ledger.decodeRows rows with error | records
  · rfl
  · rcases hnames : modifiedNames scripts (Ledger.sortRecords records) with _ | ⟨name, names⟩
    · simp [hrows, hnames] at h
    · have hne : modifiedNames scripts records ≠ [] := by
        intro hnil
        rw [(modifiedNames_sortRecords_eq_nil scripts records).mpr hnil] at hnames
        simp at hnames
      simp [hne]

/-! ## The steps of a run -/

/-- The steps up to the scripts, for the tables of the keyspace. -/
def openingSteps (job : Job) (tables : List Row) : List Step :=
  ⟨job.ledger.listTables, job.ledger.bootstrapError⟩ ::
    job.ledger.bootstrapSteps job.config.replication job.config.refresh tables

/-- The step that reads the ledger. -/
def readStep (job : Job) : Step :=
  ⟨job.ledger.selectRows, .ledgerRead job.ledger.qualified⟩

/-- The steps of a run with scripts, for the tables of the keyspace and the rows of the ledger. -/
def steps (job : Job) (scripts : List Script) (tables rows : List Row) : List Step :=
  job.openingSteps tables ++ job.readStep :: job.dueSteps 0 (job.dueScripts scripts rows)

theorem statementsOf_steps (job : Job) (scripts : List Script) (tables rows : List Row) :
    job.statementsOf (job.steps scripts tables rows) = job.plan scripts tables rows := by
  simp [steps, openingSteps, readStep, plan, statementsOf]

/-- The statements of the bootstrap are not the one that reads the ledger. -/
theorem bootstrapSteps_ne_selectRows (l : Ledger) (timeout : Nat) (replication : Replication)
    (refresh : Bool) (tables : List Row) :
    ∀ step ∈ l.bootstrapSteps replication refresh tables,
      step.statement.withTimeout timeout ≠ l.selectRows.withTimeout timeout := by
  intro step hstep heq
  have hkind : step.statement.kind = .query := congrArg Statement.kind heq
  have hexecute : step.statement.kind = .execute := by
    have hmem : step.statement = l.dropKeyspace ∨ step.statement = l.createKeyspace replication ∨
        step.statement = l.createTable := by
      unfold Ledger.bootstrapSteps Ledger.creationSteps at hstep
      split at hstep
      · simp only [List.mem_cons, List.not_mem_nil, or_false] at hstep
        rcases hstep with rfl | rfl <;> simp
      · split at hstep
        · simp only [List.mem_cons, List.not_mem_nil, or_false] at hstep
          rcases hstep with rfl | rfl | rfl <;> simp
        · simp at hstep
    rcases hmem with h | h | h <;> rw [h]
    · unfold Ledger.dropKeyspace
      split <;> rfl
    · unfold Ledger.createKeyspace
      split <;> rfl
    · rfl
  rw [hkind] at hexecute
  cases hexecute

theorem listTables_ne_selectRows (l : Ledger) (timeout : Nat) :
    l.listTables.withTimeout timeout ≠ l.selectRows.withTimeout timeout := by
  intro heq
  have hvalues : l.listTables.values = [] := congrArg Statement.values heq
  unfold Ledger.listTables at hvalues
  split at hvalues <;> simp [Statement.query] at hvalues

/-! ## Attempting the steps -/

variable (session : Session σ)

/-- What follows the bootstrap reads the ledger and attempts what is due. What has been read may
keep the run from going on. -/
theorem resume_eq_attempt (job : Job) (scripts : List Script) (action : KeyspaceAction)
    (state : σ) :
    let t := job.resume session scripts action state
    let rows := answered job.timeout job.ledger.selectRows t.sent
    let attempt := session.attempt job.timeout
      (job.readStep :: job.dueSteps 0 (job.dueScripts scripts rows)) state
    t = ⟨attempt.result.bind fun _ => (job.duty scripts rows).map (job.reportOf scripts action),
      attempt.state, attempt.sent⟩ := by
  obtain ⟨e, hstatement, -, hsent, ⟨rows, hrows, hok⟩ | ⟨-, herror⟩⟩ := session.ask_cases
    job.timeout job.ledger.selectRows (MigrationError.ledgerRead job.ledger.qualified) state
  · have hread := answered_cons_self hstatement hrows
    rcases hduty : job.duty scripts rows with error | due
    · -- nothing is due
      have hdue := dueScripts_of_duty_error hduty
      simp only [resume_of_duty_error session hok hduty, hsent, hread, hdue, hduty, dueSteps,
        Session.attempt, readStep, Trace.bind_of_ok hok]
      rfl
    · have hdue := dueScripts_of_duty hduty
      simp only [resume_of_duty session hok hduty, hsent, List.singleton_append, hread, hdue, hduty,
        Session.attempt, readStep, Trace.bind_of_ok hok]
      rfl
  · simp only [resume, Session.attempt, readStep, Trace.bind_of_error herror]
    rfl

/-- The bootstrap does not read the ledger. -/
theorem ne_selectRows_of_mem_sent (job : Job) (tables : List Row) (state : σ) :
    ∀ e ∈ (session.attempt job.timeout (job.ledger.bootstrapSteps job.config.replication
      job.config.refresh tables) state).sent,
      e.statement ≠ job.ledger.selectRows.withTimeout job.timeout := by
  intro e he
  have hattempts := session.attempt_attempts job.timeout (job.ledger.bootstrapSteps
    job.config.replication job.config.refresh tables) state
  obtain ⟨step, hstep, hstatement⟩ :=
    List.mem_map.mp (hattempts.failFast.follows.subset (List.mem_map_of_mem he))
  rw [← hstatement]
  exact bootstrapSteps_ne_selectRows job.ledger job.timeout _ _ tables step hstep

/-- From the bootstrap on, the steps depend on the tables that were listed before. -/
theorem bootstrapped_eq_attempt (job : Job) (scripts : List Script) (action : KeyspaceAction)
    (tables : List Row) (state : σ) :
    let steps := job.ledger.bootstrapSteps job.config.replication job.config.refresh tables
    let t := (session.attempt job.timeout steps state).bind fun _ state =>
      job.resume session scripts action state
    let rows := answered job.timeout job.ledger.selectRows t.sent
    let attempt := session.attempt job.timeout
      (steps ++ job.readStep :: job.dueSteps 0 (job.dueScripts scripts rows)) state
    t = ⟨attempt.result.bind fun _ => (job.duty scripts rows).map (job.reportOf scripts action),
      attempt.state, attempt.sent⟩ := by
  intro steps t rows attempt
  have hattempt : attempt = (session.attempt job.timeout steps state).bind fun _ state =>
      session.attempt job.timeout (job.readStep :: job.dueSteps 0 (job.dueScripts scripts rows))
        state := session.attempt_append job.timeout ..
  rcases hboot : (session.attempt job.timeout steps state).result with error | ⟨⟩
  · have ht : t = _ := Trace.bind_of_error hboot _
    rw [hattempt, Trace.bind_of_error hboot, ht]
    rfl
  · have ht : t = _ := Trace.bind_of_ok hboot _
    have hrest := job.resume_eq_attempt session scripts action
      (session.attempt job.timeout steps state).state
    -- the ledger is read for the first time behind the bootstrap
    have hrows : rows = answered job.timeout job.ledger.selectRows
        (job.resume session scripts action (session.attempt job.timeout steps state).state).sent := by
      simp only [rows, ht]
      exact answered_append (job.ne_selectRows_of_mem_sent session tables state) _
    rw [hattempt, Trace.bind_of_ok hboot, ht, hrest, hrows]

/-- A run over some scripts does nothing but attempt its steps. If all of them go through, what has
been read from the ledger decides between an error and a report. -/
theorem trace_migrateScripts_eq_attempt (job : Job) {scripts : List Script}
    (hroom : ∀ script ∈ scripts, script.version ≤ Ledger.maxColumnVersion) (state : σ) :
    let t := Task.trace session (job.migrateScripts scripts) state
    let tables := answered job.timeout job.ledger.listTables t.sent
    let rows := answered job.timeout job.ledger.selectRows t.sent
    let attempt := session.attempt job.timeout (job.steps scripts tables rows) state
    t = ⟨attempt.result.bind fun _ => (job.duty scripts rows).map
        (job.reportOf scripts (Ledger.actionOn job.config.refresh tables)),
      attempt.state, attempt.sent⟩ := by
  intro t tables rows attempt
  have ht : t = _ := (trace_migrateScripts session job scripts hroom state).trans
    (congrArg (Trace.bind · _) (Ledger.trace_bootstrap session job.ledger job.timeout _ _ state))
  rw [Trace.bind_assoc] at ht
  obtain ⟨e, hstatement, -, hsent, ⟨listed, hlisted, hok⟩ | ⟨-, herror⟩⟩ := session.ask_cases
    job.timeout job.ledger.listTables job.ledger.bootstrapError state
  · rw [Trace.bind_of_ok hok, hsent, List.singleton_append] at ht
    simp only [Answer.ofRows, Trace.map_bind] at ht
    let boot := job.ledger.bootstrapSteps job.config.replication job.config.refresh listed
    let next := (session.ask job.timeout job.ledger.listTables job.ledger.bootstrapError state).state
    let rest := (session.attempt job.timeout boot next).bind fun _ state =>
      job.resume session scripts (Ledger.actionOn job.config.refresh listed) state
    have hrest := job.bootstrapped_eq_attempt session scripts
      (Ledger.actionOn job.config.refresh listed) listed next
    have htables : tables = listed := by
      simp only [tables, ht]
      exact answered_cons_self hstatement hlisted _
    have hrows : rows = answered job.timeout job.ledger.selectRows rest.sent := by
      have hother : ∀ f ∈ [e], f.statement ≠ job.ledger.selectRows.withTimeout job.timeout := by
        simpa [hstatement] using listTables_ne_selectRows job.ledger job.timeout
      simp only [rows, ht]
      exact answered_append hother _
    let others := session.attempt job.timeout (boot ++ job.readStep :: job.dueSteps 0
      (job.dueScripts scripts (answered job.timeout job.ledger.selectRows rest.sent))) next
    have hattempt : attempt = ⟨others.result, others.state, e :: others.sent⟩ := by
      simp only [attempt, htables, hrows, steps, openingSteps, List.cons_append, Session.attempt]
      rw [Trace.bind_of_ok hok, hsent]
      rfl
    rw [hattempt, ht, htables, hrows]
    exact congrArg (fun r : Trace σ MigrationError Report => { r with sent := e :: r.sent }) hrest
  · rw [Trace.bind_of_error herror] at ht
    rw [ht]
    simp only [attempt, steps, openingSteps, List.cons_append, Session.attempt,
      Trace.bind_of_error herror]
    rfl

/-- So it follows the plan of their statements. -/
theorem migrateScripts_failFast (job : Job) (scripts : List Script)
    (hroom : ∀ script ∈ scripts, script.version ≤ Ledger.maxColumnVersion) (state : σ) :
    FailFast job.timeout
      (job.plan scripts
        (answered job.timeout job.ledger.listTables
          (Task.trace session (job.migrateScripts scripts) state).sent)
        (answered job.timeout job.ledger.selectRows
          (Task.trace session (job.migrateScripts scripts) state).sent))
      (Task.trace session (job.migrateScripts scripts) state).sent := by
  have hsent := congrArg Trace.sent (job.trace_migrateScripts_eq_attempt session hroom state)
  rw [← statementsOf_steps]
  -- the answers on which the steps depend are those of the run itself
  exact Eq.subst (motive := FailFast job.timeout _) hsent.symm
    (session.attempt_attempts job.timeout _ state).failFast

/-- **A run follows its plan.** With any session, whatever it answers and however long it takes, the
statements that a run sends are those of the plan for the answers it gets, up to the first one that
fails; without a failure the whole plan is sent. A run that succeeds has had no failure. -/
theorem run_follows_plan (job : Job) (listing : Listing) (state : σ) :
    let sent := Dialogue.exchanges session (job.run listing).run state
    (Dialogue.play session (job.run listing).run state).statements = sent.map (·.statement) ∧
      FailFast job.timeout
        (job.planOf listing (answered job.timeout job.ledger.listTables sent)
          (answered job.timeout job.ledger.selectRows sent)) sent ∧
      ∀ report, (Dialogue.play session (job.run listing).run state).result = .ok report →
        ∀ e ∈ sent, e.Succeeded job.timeout := by
  intro sent
  refine ⟨Dialogue.statements_play session _ state, ?_, job.run_strict session listing state⟩
  have hsent : sent = (Task.trace session (job.migrate listing) state).sent :=
    congrArg Trace.sent (trace_closingAfter session (job.migrate listing) state)
  rw [hsent, trace_migrate]
  unfold planOf
  rcases hfound : (discover job.naming job.config.scriptDirectory listing).result with
    error | scripts
  · exact FailFast.nil
  · rcases hempty : scripts.isEmpty with _ | _
    · simp only [hempty]
      exact job.migrateScripts_failFast session scripts (version_le_of_discover hfound) state
    · simp only [hempty, if_true]
      exact FailFast.nil

end Job

end SchemaMigration
