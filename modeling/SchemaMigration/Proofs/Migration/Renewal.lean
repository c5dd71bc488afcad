import SchemaMigration.Proofs.Agreement
import SchemaMigration.Proofs.Migration.Attribution

/-!
# Starting the ledger anew

A run with a refresh drops the keyspace if it is there, and creates it again with an empty ledger.
From then on nothing is left to tell what was there before: two such runs, on whatever stores, stay
in step as long as their statements fare alike.

* `Job.resume_of_fresh`: with an empty ledger every script above version zero is due.
* `Job.rebuild`: what such a run does once the keyspace is out of the way.
* `Job.Rebuilds`: the way there, behind which the keyspace is absent or nothing follows.
* `Job.rebuild_inStep`, `Job.stored?_rebuild`: this depends on the fate of its statements alone.
* `Run.Renews`: a run with a refresh that gets the keyspace out of the way.
* `Run.renewal_forgets`: two of them end alike.
-/

namespace SchemaMigration

variable {σ τ : Type}

/-- A report that does not say what was done to the keyspace. -/
def Report.withoutAction (report : Report) : Report :=
  { report with keyspace := none }

theorem Job.map_closed {α β : Type} (result : Except MigrationError α)
    (close : Option SessionError) (f : α → β) :
    (closed result close).map f = closed (result.map f) close := by
  cases close <;> cases result <;> rfl

theorem Ledger.createKeyspace_ne_listTables {l : Ledger} {replication : Replication}
    {timeout : Nat} :
    (l.createKeyspace replication).withTimeout timeout ≠ l.listTables.withTimeout timeout := by
  intro heq
  have hkind := congrArg Statement.kind heq
  change (l.createKeyspace replication).kind = l.listTables.kind at hkind
  unfold createKeyspace listTables at hkind
  cases hdialect : l.dialect <;> simp [hdialect, Statement.execute, Statement.query] at hkind

namespace Job

variable {fate : FailedWrite} {session : Session σ} {view : σ → Store} {job : Job}
  {scripts : List Script} {action : KeyspaceAction}

/-- With an empty ledger every script above version zero is due, whatever was there before. -/
theorem resume_of_fresh (hkeeps : session.Keeps fate view job.ledger job.timeout) {state : σ}
    (hfresh : job.rowsIn view state = []) (scripts : List Script) (action : KeyspaceAction) :
    let due := pending scripts Version.none
    job.resume session scripts action state =
      (session.attempt job.timeout (job.readStep :: job.dueSteps 0 due) state).map
        fun _ => job.reportOf scripts action (Version.none, due) := by
  intro due
  rw [Session.attempt, Trace.bind_map]
  unfold readStep
  obtain ⟨-, -, -, -, ⟨rows, hok, hperm⟩ | ⟨error, herror⟩⟩ := ask_selectRows hkeeps state
  · rw [hfresh, List.map_nil, List.perm_nil] at hperm
    rw [resume, Trace.bind_of_ok hok, Trace.bind_of_ok hok]
    simp only [Answer.ofRows, hperm, duty_nil, due]
  · rw [resume, Trace.bind_of_error herror, Trace.bind_of_error herror]

/-- What has been done to the keyspace is only reported. -/
theorem resume_map (action : KeyspaceAction) (state : σ) :
    job.resume session scripts action state =
      (job.resume session scripts .recreated state).map
        fun report => { report with keyspace := some action } := by
  unfold resume
  rw [Trace.bind_map]
  congr 1
  funext answer state
  rcases job.duty scripts answer.rows with error | due
  · rfl
  · simp only [Trace.map_map]
    rfl

/-- The creation of the keyspace and the ledger, and what follows it. -/
def rebuild (job : Job) (session : Session σ) (scripts : List Script) (state : σ) :
    Trace σ MigrationError Report :=
  (session.attempt job.timeout (job.ledger.creationSteps job.config.replication) state).bind
    fun _ state => job.resume session scripts .recreated state

theorem rebuild_map (action : KeyspaceAction) (state : σ) :
    ((session.attempt job.timeout (job.ledger.creationSteps job.config.replication) state).bind
      fun _ state => job.resume session scripts action state) =
      (job.rebuild session scripts state).map
        fun report => { report with keyspace := some action } := by
  rw [rebuild, Trace.bind_map]
  congr 1
  funext _ state
  exact resume_map action state

/-- The keyspace is created first. -/
theorem sent_rebuild (job : Job) (session : Session σ) (scripts : List Script) (state : σ) :
    ∃ e more, (job.rebuild session scripts state).sent = e :: more ∧
      e.statement = (job.ledger.createKeyspace job.config.replication).withTimeout job.timeout := by
  obtain ⟨e, hstatement, -, hsent, -⟩ := session.ask_cases job.timeout
    (job.ledger.createKeyspace job.config.replication) job.ledger.bootstrapError state
  have hprefix := (Trace.sent_prefix_bind _ _).trans (Trace.sent_prefix_bind (session.attempt
    job.timeout (job.ledger.creationSteps job.config.replication) state)
    fun _ state => job.resume session scripts .recreated state)
  rw [hsent] at hprefix
  obtain ⟨more, hmore⟩ := hprefix
  exact ⟨e, more, hmore.symm, hstatement⟩

/-- The steps of a run from the creation of the keyspace on. -/
def renewalSteps (job : Job) (scripts : List Script) : List Step :=
  job.ledger.creationSteps job.config.replication ++
    job.readStep :: job.dueSteps 0 (pending scripts Version.none)

/-- A ledger that has been created has no rows. -/
theorem stored?_of_created (hkeeps : session.Keeps fate view job.ledger job.timeout) {state : σ} :
    let created := session.attempt job.timeout
      (job.ledger.creationSteps job.config.replication) state
    created.result = .ok () →
      job.ledger.stored? (view created.state) = some ⟨job.ledger.checksums, []⟩ := by
  intro created hok
  rcases Ledger.attempt_creationSteps hkeeps job.config.replication state with
    ⟨-, hstored⟩ | ⟨error, -, herror, -⟩ | ⟨error, herror, -⟩
  · exact hstored
  · cases hok.symm.trans herror
  · cases hok.symm.trans herror

/-- Where the keyspace is absent and the creation fails, there is no ledger. -/
theorem stored?_of_not_created (hkeeps : session.Keeps fate view job.ledger job.timeout) {state : σ}
    (habsent : job.ledger.tables? (view state) = none) {error : MigrationError} :
    let created := session.attempt job.timeout
      (job.ledger.creationSteps job.config.replication) state
    created.result = .error error → job.ledger.stored? (view created.state) = none := by
  intro created herror
  rcases Ledger.attempt_creationSteps hkeeps job.config.replication state with
    ⟨hok, -⟩ | ⟨_, -, -, -, -, hsame⟩ | ⟨_, -, -, hbare⟩
  · cases hok.symm.trans herror
  · rw [hsame]
    exact Ledger.stored?_of_tables?_none habsent
  · rw [Ledger.stored?_of_tables? hbare]
    rfl

/-- From the creation of the keyspace on, nothing that is read matters. -/
theorem rebuild_eq_attempt (hkeeps : session.Keeps fate view job.ledger job.timeout)
    (scripts : List Script) (state : σ) :
    job.rebuild session scripts state =
      (session.attempt job.timeout (job.renewalSteps scripts) state).map fun _ =>
        job.reportOf scripts .recreated (Version.none, pending scripts Version.none) := by
  rw [rebuild, renewalSteps, Session.attempt_append, Trace.bind_map]
  rcases hcreated : (session.attempt job.timeout
    (job.ledger.creationSteps job.config.replication) state).result with error | ⟨⟩
  · rw [Trace.bind_of_error hcreated, Trace.bind_of_error hcreated]
  · have hfresh : job.rowsIn view (session.attempt job.timeout
        (job.ledger.creationSteps job.config.replication) state).state = [] :=
      Ledger.storedRows_of_stored? (stored?_of_created hkeeps hcreated)
    rw [Trace.bind_of_ok hcreated, Trace.bind_of_ok hcreated, resume_of_fresh hkeeps hfresh]

/-- Behind the exchanges `front` the keyspace is absent, and is created again. Or one of them is
without success, and nothing follows. -/
def Rebuilds (job : Job) (session : Session σ) (view : σ → Store) (scripts : List Script)
    (action : KeyspaceAction) (front : List (Exchange σ))
    (t : Trace σ MigrationError Report) : Prop :=
  (∃ state, job.ledger.tables? (view state) = none ∧
      let rebuilt := job.rebuild session scripts state
      t = ⟨rebuilt.result.map fun report => { report with keyspace := some action }, rebuilt.state,
        front ++ rebuilt.sent⟩) ∨
    t.sent = front ∧ ∃ e ∈ front, ¬ e.Succeeded job.timeout

theorem Rebuilds.cons {front : List (Exchange σ)} {t : Trace σ MigrationError Report}
    (h : job.Rebuilds session view scripts action front t) (e : Exchange σ) :
    job.Rebuilds session view scripts action (e :: front) { t with sent := [e] ++ t.sent } := by
  rcases h with ⟨state, habsent, rfl⟩ | ⟨rfl, f, hf, hnot⟩
  · exact .inl ⟨state, habsent, rfl⟩
  · exact .inr ⟨rfl, f, List.mem_cons_of_mem e hf, hnot⟩

/-- A keyspace that is absent is created. -/
theorem rebuilds_of_absent {state : σ} (habsent : job.ledger.tables? (view state) = none)
    (scripts : List Script) (action : KeyspaceAction) :
    job.Rebuilds session view scripts action []
      ((session.attempt job.timeout (job.ledger.creationSteps job.config.replication) state).bind
        fun _ state => job.resume session scripts action state) := by
  rw [rebuild_map]
  exact .inl ⟨state, habsent, rfl⟩

/-- A keyspace that is there is dropped first. -/
theorem rebuilds_of_drop (hkeeps : session.Keeps fate view job.ledger job.timeout)
    (scripts : List Script) (action : KeyspaceAction) (state : σ) :
    ∃ d : Exchange σ, d.statement = job.ledger.dropKeyspace.withTimeout job.timeout ∧
      job.Rebuilds session view scripts action [d]
        ((session.attempt job.timeout (⟨job.ledger.dropKeyspace, job.ledger.bootstrapError⟩ ::
          job.ledger.creationSteps job.config.replication) state).bind
            fun _ state => job.resume session scripts action state) := by
  rw [Session.attempt, Trace.bind_assoc]
  obtain ⟨d, hsent, hstatement, -, hcase⟩ := hkeeps.ask_cases_of_ne (r := .dropKeyspace) (by simp)
    job.ledger.bootstrapError state
  simp only [Ledger.Request.statement] at hsent hstatement hcase
  refine ⟨d, hstatement, ?_⟩
  rcases hcase with ⟨rows, hok, -, hdone⟩ | ⟨error, herror, hnot, -⟩
  · rw [Trace.bind_of_ok hok, hsent]
    exact (rebuilds_of_absent (Ledger.Request.done_dropKeyspace hdone).2 scripts action).cons d
  · rw [Trace.bind_of_error herror, hsent]
    exact .inr ⟨rfl, d, List.mem_singleton_self d, hnot⟩

/-- A statement that fails never means that a script has changed. -/
theorem blame_ne_modified {step : Step} (hstep : step ∈ job.renewalSteps scripts)
    (error : SessionError) {name table : String} : step.blame error ≠ .modified name table := by
  unfold renewalSteps Ledger.creationSteps at hstep
  simp only [List.cons_append, List.nil_append, List.mem_cons] at hstep
  rcases hstep with rfl | rfl | rfl | hstep
  · simp [Ledger.bootstrapError]
  · simp [Ledger.bootstrapError]
  · simp [readStep]
  · exact forall_mem_dueSteps (P := fun step => step.blame error ≠ .modified name table)
      (by simp [statementStep]) (by simp [recordStep]) 0 step hstep

/-- What follows only adds rows to the ledger. -/
theorem stored?_resume (hkeeps : session.Keeps fate view job.ledger job.timeout)
    (hleaves : ∀ script ∈ scripts, session.LeavesLedger view job.ledger job.timeout script)
    {state : σ} {column : Bool} {rows : List StoredRow}
    (hstored : job.ledger.stored? (view state) = some ⟨column, rows⟩) (action : KeyspaceAction) :
    let t := job.resume session scripts action state
    job.ledger.stored? (view t.state) = some ⟨column, job.rowsIn view t.state⟩ := by
  intro t
  have hspares : ∀ script ∈ scripts, session.Spares view job.timeout
      (fun s => job.ledger.shape? s = some column) script := fun script hscript =>
    (hleaves script hscript).spares_shape (· = some column)
  have hshape : job.ledger.shape? (view t.state) = some column :=
    (shape?_resume (P := (· = some column)) hkeeps hspares action
      (by simp [Ledger.shape?, hstored])).1
  obtain ⟨table, htable, rfl⟩ := Option.map_eq_some_iff.mp hshape
  rw [rowsIn, Ledger.storedRows_of_stored? htable]
  exact htable

/-! ## Two jobs that are alike -/

section Two

variable {other : Session τ} {view' : τ → Store} {job' : Job}

namespace Alike

theorem scriptSteps (h : job.Alike job') (number : Nat) (script : Script) :
    List.Forall₂ Step.Alike (job.scriptSteps number script) (job'.scriptSteps number script) := by
  apply forall₂_scriptSteps fun text _ => ⟨rfl, rfl⟩
  unfold recordStep
  rw [h.ledger]
  exact ⟨Ledger.insertRow_text _ _ _ script, rfl⟩

theorem dueSteps (h : job.Alike job') (number : Nat) (due : List Script) :
    List.Forall₂ Step.Alike (job.dueSteps number due) (job'.dueSteps number due) :=
  forall₂_dueSteps number fun script _ number => h.scriptSteps number script

theorem renewalSteps (h : job.Alike job') (scripts : List Script) :
    List.Forall₂ Step.Alike (job.renewalSteps scripts) (job'.renewalSteps scripts) := by
  unfold Job.renewalSteps readStep
  rw [h.ledger, h.config]
  exact List.rel_append (List.forall₂_same.mpr fun _ _ => ⟨rfl, rfl⟩)
    (.cons ⟨rfl, rfl⟩ (h.dueSteps 0 _))

theorem reportOf (h : job.Alike job') : job.reportOf = job'.reportOf := by
  unfold Job.reportOf
  rw [h.ledger]

end Alike

/-- From the creation of the keyspace on, two runs stay in step as long as their statements fare
alike. -/
theorem rebuild_inStep (h : job.Alike job')
    (hkeeps : session.Keeps fate view job.ledger job.timeout)
    (hkeeps' : other.Keeps fate view' job'.ledger job'.timeout) {state : σ} {state' : τ}
    (hagree : Agree job.timeout (job.rebuild session scripts state).sent
      (job'.rebuild other scripts state').sent) :
    (job.rebuild session scripts state).InStep (job'.rebuild other scripts state') := by
  rw [rebuild_eq_attempt hkeeps, rebuild_eq_attempt hkeeps', ← h.timeout, ← h.reportOf] at *
  exact (Session.attempt_inStep (h.renewalSteps scripts) hagree).map _

/-- Scripts whose statements fare alike add the same rows. -/
theorem rowsIn_dueSteps (h : job.Alike job')
    (hkeeps : session.Keeps .undone view job.ledger job.timeout)
    (hkeeps' : other.Keeps .undone view' job'.ledger job'.timeout) {due : List Script}
    (hleaves : ∀ script ∈ due, session.LeavesLedger view job.ledger job.timeout script)
    (hleaves' : ∀ script ∈ due, other.LeavesLedger view' job'.ledger job'.timeout script)
    (number : Nat) {state : σ} {state' : τ} (hrows : job.rowsIn view state = job'.rowsIn view' state')
    (hagree : Agree job.timeout (session.attempt job.timeout (job.dueSteps number due) state).sent
      (other.attempt job.timeout (job'.dueSteps number due) state').sent) :
    job.rowsIn view (session.attempt job.timeout (job.dueSteps number due) state).state =
      job'.rowsIn view' (other.attempt job.timeout (job'.dueSteps number due) state').state := by
  induction due generalizing number state state' with
  | nil => exact hrows
  | cons script due ih =>
      obtain ⟨hscript, hscripts⟩ := List.forall_mem_cons.mp hleaves
      obtain ⟨hscript', hscripts'⟩ := List.forall_mem_cons.mp hleaves'
      have hcases := attempt_scriptSteps hkeeps hscript number state
      have hcases' := attempt_scriptSteps hkeeps' hscript' number state'
      rw [← h.timeout] at hcases'
      simp only [Job.dueSteps, Session.attempt_append] at hagree ⊢
      have hboth : (session.attempt job.timeout (job.scriptSteps number script) state).InStep
          (other.attempt job.timeout (job'.scriptSteps number script) state') :=
        Session.attempt_inStep (h.scriptSteps number script)
          (hagree.of_prefix (Trace.sent_prefix_bind _ _) (Trace.sent_prefix_bind _ _))
      rcases hcases with ⟨hok, hend, -⟩ | ⟨error, herror, huntouched, -⟩ <;>
        rcases hcases' with ⟨hok', hend', -⟩ | ⟨error', herror', huntouched', -⟩
      · -- both scripts have been recorded
        rw [Trace.bind_of_ok hok, Trace.bind_of_ok hok'] at hagree ⊢
        apply ih hscripts hscripts' (number + 1) _ (hagree.behind hboth.length)
        rw [hend, hend', hrows, h.ledger]
      · cases hok.symm.trans (hboth.result.trans herror')
      · cases hok'.symm.trans (hboth.result.symm.trans herror)
      · rw [Trace.bind_of_error herror, Trace.bind_of_error herror']
        rcases huntouched with hsame | ⟨hfate, -⟩
        · rcases huntouched' with hsame' | ⟨hfate', -⟩
          · exact hsame.trans (hrows.trans hsame'.symm)
          · cases hfate'
        · cases hfate

/-- With an empty ledger, scripts whose statements fare alike lead to the same rows. -/
theorem rowsIn_resume (h : job.Alike job')
    (hkeeps : session.Keeps .undone view job.ledger job.timeout)
    (hkeeps' : other.Keeps .undone view' job'.ledger job'.timeout)
    (hleaves : ∀ script ∈ scripts, session.LeavesLedger view job.ledger job.timeout script)
    (hleaves' : ∀ script ∈ scripts, other.LeavesLedger view' job'.ledger job'.timeout script)
    {state : σ} {state' : τ} (hfresh : job.rowsIn view state = [])
    (hfresh' : job'.rowsIn view' state' = []) {action : KeyspaceAction}
    (hagree : Agree job.timeout (job.resume session scripts action state).sent
      (job'.resume other scripts action state').sent) :
    job.rowsIn view (job.resume session scripts action state).state =
      job'.rowsIn view' (job'.resume other scripts action state').state := by
  have hdue : ∀ {P : Script → Prop}, (∀ script ∈ scripts, P script) →
      ∀ script ∈ pending scripts Version.none, P script := by
    intro P hP script hscript
    exact hP script (List.mem_of_mem_filter hscript)
  obtain ⟨_, hsent, -, hread, -⟩ := ask_selectRows hkeeps state
  obtain ⟨_, hsent', -, hread', -⟩ := ask_selectRows hkeeps' state'
  rw [resume_of_fresh hkeeps hfresh, resume_of_fresh hkeeps' hfresh'] at hagree ⊢
  simp only [Trace.map, Session.attempt, readStep] at hagree ⊢
  rw [← h.timeout, ← h.ledger] at hagree hread' hsent' ⊢
  have hrows : job.rowsIn view (session.ask job.timeout job.ledger.selectRows
        (MigrationError.ledgerRead job.ledger.qualified) state).state =
      job'.rowsIn view' (other.ask job.timeout job.ledger.selectRows
        (MigrationError.ledgerRead job.ledger.qualified) state').state := by
    unfold rowsIn at hfresh hfresh' ⊢
    rw [hread, hread', hfresh, hfresh']
  have hfirst := hagree.of_prefix (Trace.sent_prefix_bind _ _) (Trace.sent_prefix_bind _ _)
  rcases Session.ask_of_agree rfl hfirst with ⟨rows, rows', hok, hok'⟩ | ⟨error, herror, herror'⟩
  · rw [Trace.bind_of_ok hok, Trace.bind_of_ok hok'] at hagree ⊢
    exact rowsIn_dueSteps h hkeeps hkeeps' (hdue hleaves) (hdue hleaves') 0 hrows
      (hagree.behind (by rw [hsent, hsent']; rfl))
  · rw [Trace.bind_of_error herror, Trace.bind_of_error herror']
    exact hrows

/-- Where the keyspace is absent, two runs lead to the same ledger as long as their statements fare
alike. -/
theorem stored?_rebuild (h : job.Alike job')
    (hkeeps : session.Keeps .undone view job.ledger job.timeout)
    (hkeeps' : other.Keeps .undone view' job'.ledger job'.timeout)
    (hleaves : ∀ script ∈ scripts, session.LeavesLedger view job.ledger job.timeout script)
    (hleaves' : ∀ script ∈ scripts, other.LeavesLedger view' job'.ledger job'.timeout script)
    {state : σ} {state' : τ} (habsent : job.ledger.tables? (view state) = none)
    (habsent' : job'.ledger.tables? (view' state') = none)
    (hagree : Agree job.timeout (job.rebuild session scripts state).sent
      (job'.rebuild other scripts state').sent) :
    job.ledger.stored? (view (job.rebuild session scripts state).state) =
      job'.ledger.stored? (view' (job'.rebuild other scripts state').state) := by
  unfold rebuild at hagree ⊢
  let created := session.attempt job.timeout
    (job.ledger.creationSteps job.config.replication) state
  let created' := other.attempt job'.timeout
    (job'.ledger.creationSteps job'.config.replication) state'
  have hboth : created.InStep created' := by
    have hfirst := hagree.of_prefix (Trace.sent_prefix_bind _ _) (Trace.sent_prefix_bind _ _)
    simp only [created, created', ← h.timeout, ← h.ledger, ← h.config] at hfirst ⊢
    exact Session.attempt_inStep (List.forall₂_same.mpr fun _ _ => ⟨rfl, rfl⟩) hfirst
  rcases hresult : created.result with error | ⟨⟩
  · have hother : created'.result = .error error := hboth.result.symm.trans hresult
    rw [Trace.bind_of_error hresult, Trace.bind_of_error hother]
    exact (stored?_of_not_created hkeeps habsent hresult).trans
      (stored?_of_not_created hkeeps' habsent' hother).symm
  · have hother : created'.result = .ok () := hboth.result.symm.trans hresult
    have hstored := stored?_of_created hkeeps hresult
    have hstored' := stored?_of_created hkeeps' hother
    rw [Trace.bind_of_ok hresult, Trace.bind_of_ok hother] at hagree ⊢
    have hrows := rowsIn_resume h hkeeps hkeeps' hleaves hleaves'
      (Ledger.storedRows_of_stored? hstored) (Ledger.storedRows_of_stored? hstored')
      (hagree.behind hboth.length)
    rw [stored?_resume hkeeps hleaves hstored, stored?_resume hkeeps' hleaves' hstored', hrows,
      h.ledger]

end Two

end Job

namespace Run

/-! ## Runs that start anew -/

variable {fate : FailedWrite}

/-- The statement asks for the tables of the keyspace, or drops it. -/
def Clears (r : Run fate) (e : Exchange r.σ) : Prop :=
  e.statement = r.job.ledger.listTables.withTimeout r.job.timeout ∨
    e.statement = r.job.ledger.dropKeyspace.withTimeout r.job.timeout

instance (r : Run fate) : DecidablePred r.Clears := fun _ =>
  inferInstanceAs (Decidable (_ ∨ _))

/-- What a run sends to get the keyspace out of the way. -/
def opening (r : Run fate) : List (Exchange r.σ) :=
  r.trace.sent.takeWhile fun e => r.Clears e

/-- What it sends from then on. -/
def renewal (r : Run fate) : List (Exchange r.σ) :=
  r.trace.sent.dropWhile fun e => r.Clears e

/-- How closing the session ends. -/
def closing (r : Run fate) : Option SessionError :=
  (r.session.close (Task.trace r.session (r.job.migrate r.listing) r.start).state).1

/-- What a refresh makes of the keyspace. -/
def renewalAction (r : Run fate) : KeyspaceAction :=
  if (r.job.ledger.tables? r.before).isNone then .created else .recreated

/-- A run with a refresh over a directory with scripts. The keyspace is absent or has a table, and
what is sent to get it out of the way succeeds. -/
structure Renews (r : Run fate) : Prop where
  refresh : r.job.config.refresh = true
  begins : r.Begins
  standing : r.job.ledger.tables? r.before ≠ some []
  leaves : r.LeavesLedger
  cleared : ∀ e ∈ r.opening, e.Succeeded r.job.timeout

variable {r : Run fate}

theorem createKeyspace_not_clears {e : Exchange r.σ} (h : e.statement =
    (r.job.ledger.createKeyspace r.job.config.replication).withTimeout r.job.timeout) :
    ¬ r.Clears e := by
  rintro (hlist | hdrop)
  · exact Ledger.createKeyspace_ne_listTables (h.symm.trans hlist)
  · exact Ledger.creationSteps_ne_dropKeyspace _ (List.mem_cons_self ..) (h.symm.trans hdrop)

/-- What has got the keyspace out of the way is told apart from what follows. -/
theorem renewal_of_sent {front : List (Exchange r.σ)} {scripts : List Script} {state : r.σ}
    (hsent : r.trace.sent = front ++ (r.job.rebuild r.session scripts state).sent)
    (hfront : ∀ e ∈ front, r.Clears e) :
    r.renewal = (r.job.rebuild r.session scripts state).sent := by
  obtain ⟨e, more, hrebuild, hstatement⟩ := r.job.sent_rebuild r.session scripts state
  rw [renewal, hsent, hrebuild, List.dropWhile_append_of_pos (by simpa using hfront),
    List.dropWhile_cons_of_neg (by simpa using createKeyspace_not_clears hstatement)]

/-- Without success there, the run would not have got the keyspace out of the way. -/
theorem Renews.succeeded (h : r.Renews) {front more : List (Exchange r.σ)}
    (hsent : r.trace.sent = front ++ more) (hfront : ∀ e ∈ front, r.Clears e) :
    ∀ e ∈ front, e.Succeeded r.job.timeout := by
  intro e he
  apply h.cleared
  rw [opening, hsent, List.takeWhile_append_of_pos (by simpa using hfront)]
  exact List.mem_append_left _ he

/-- A run with a refresh asks for the tables. It drops the keyspace if there are any, and it creates
the keyspace. -/
theorem rebuilds_migrate (hrefresh : r.job.config.refresh = true)
    (hstanding : r.job.ledger.tables? r.before ≠ some []) {scripts : List Script}
    (hfound : r.discovered = .ok scripts) (hne : scripts ≠ []) :
    ∃ front : List (Exchange r.σ), (∀ e ∈ front, r.Clears e) ∧
      r.job.Rebuilds r.session r.view scripts r.renewalAction front
        (Task.trace r.session (r.job.migrate r.listing) r.start) := by
  rw [Job.trace_migrate_of_found r.session r.job hfound hne r.start, Ledger.trace_bootstrap,
    Trace.bind_assoc]
  obtain ⟨e, hsent, hstatement, -, hcase⟩ :=
    r.keeps.ask_cases_of_ne (r := .listTables) (by simp) r.job.ledger.bootstrapError r.start
  simp only [Ledger.Request.statement] at hsent hstatement hcase
  have he : r.Clears e := .inl hstatement
  rcases hcase with ⟨tables, hok, -, hdone⟩ | ⟨error, herror, hnot, -⟩
  · obtain ⟨hsame, hempty⟩ := Ledger.Request.done_listTables hdone
    rw [Trace.bind_of_ok hok, hsent]
    simp only [Answer.ofRows, Trace.map_bind, Ledger.bootstrapSteps, Ledger.actionOn, hrefresh,
      if_true]
    rcases hbefore : r.job.ledger.tables? r.before with _ | stored
    · -- no table is listed, for the keyspace is absent
      have hnil : tables = [] := hempty.mpr (congrArg (·.getD []) hbefore)
      have haction : r.renewalAction = .created := by simp [renewalAction, hbefore]
      rw [hnil, haction]
      exact ⟨[e], by simpa using he, (Job.rebuilds_of_absent
        ((congrArg r.job.ledger.tables? hsame).trans hbefore) scripts .created).cons e⟩
    · have hstored : stored ≠ [] := fun hnil => hstanding (hnil ▸ hbefore)
      have hlisted : ¬ tables.isEmpty = true := by
        rw [List.isEmpty_iff, hempty]
        change ¬ (r.job.ledger.tables? r.before).getD [] = []
        rw [hbefore]
        exact hstored
      have haction : r.renewalAction = .recreated := by simp [renewalAction, hbefore]
      rw [if_neg hlisted, if_neg hlisted, haction]
      obtain ⟨d, hstatement', hrebuilds⟩ := Job.rebuilds_of_drop r.keeps scripts .recreated _
      have hd : r.Clears d := .inr hstatement'
      exact ⟨[e, d], List.forall_mem_cons.mpr ⟨he, by simpa using hd⟩, hrebuilds.cons e⟩
  · -- the question itself has failed
    rw [Trace.bind_of_error herror, hsent]
    exact ⟨[e], by simpa using he, .inr ⟨rfl, e, List.mem_singleton_self e, hnot⟩⟩

/-- The run gets the keyspace out of the way, and then does what does not depend on it. -/
theorem Renews.parts (h : r.Renews) {scripts : List Script} (hfound : r.discovered = .ok scripts)
    (hne : scripts ≠ []) :
    ∃ state, r.job.ledger.tables? (r.view state) = none ∧
      let t := r.job.rebuild r.session scripts state
      r.renewal = t.sent ∧ r.after = r.view t.state ∧ r.trace.result = Job.closed
        (t.result.map fun report => { report with keyspace := some r.renewalAction }) r.closing := by
  have htrace : r.trace = _ :=
    Job.trace_closingAfter r.session (r.job.migrate r.listing) r.start
  obtain ⟨front, hfront, ⟨state, habsent, hmigrate⟩ | ⟨hsent, e, he, hnot⟩⟩ :=
    rebuilds_migrate h.refresh h.standing hfound hne
  · refine ⟨state, habsent, renewal_of_sent ?_ hfront, ?_, ?_⟩
    · rw [htrace, hmigrate]
    · rw [after, htrace, hmigrate]
      exact r.keeps.closed _
    · rw [htrace, closing, hmigrate]
  · -- what is sent to get the keyspace out of the way has succeeded
    have hall : r.trace.sent = front ++ [] := by rw [htrace, hsent, List.append_nil]
    exact absurd (h.succeeded hall hfront e he) hnot

/-- A run that takes nothing over: it reports what it has done to the keyspace and no earlier
version, and it finds no script changed. -/
structure StartsAnew (r : Run fate) : Prop where
  reported : ∀ report, r.trace.result = .ok report →
    report.keyspace = some r.renewalAction ∧ report.previousVersion = Version.none
  unchanged : ∀ name table, r.trace.result ≠ .error (.modified name table)

theorem Renews.startsAnew (h : r.Renews) : r.StartsAnew := by
  obtain ⟨scripts, hfound, hne⟩ := h.begins
  obtain ⟨state, -, -, -, hresult⟩ := h.parts hfound hne
  rw [Job.rebuild_eq_attempt r.keeps] at hresult
  refine ⟨?_, ?_⟩
  · intro report hreport
    have hok := Job.closed_eq_ok (hresult.symm.trans hreport)
    rcases hattempt : (r.session.attempt r.job.timeout (r.job.renewalSteps scripts) state).result
      with error | ⟨⟩
    · simp [Trace.map, hattempt, Except.map] at hok
    · simp only [Trace.map, hattempt, Except.map, Except.ok.injEq] at hok
      rw [← hok]
      exact ⟨rfl, rfl⟩
  · intro name table hmodified
    rw [hresult, Job.closed_eq_modified] at hmodified
    rcases hattempt : (r.session.attempt r.job.timeout (r.job.renewalSteps scripts) state).result
      with error | ⟨⟩
    · obtain ⟨step, hstep, -, e, -, -, -, hblame⟩ :=
        r.session.attempt_stopsAt r.job.timeout hattempt
      simp only [Trace.map, hblame, Except.map, Except.error.injEq] at hmodified
      exact Job.blame_ne_modified hstep _ hmodified
    · simp [Trace.map, hattempt, Except.map] at hmodified

/-- **A refresh forgets the past.** Two runs of one job with a refresh, over one directory, on
whatever stores: if what is sent after the keyspace is out of the way fares alike, then they end
with the same error or with the same report, apart from what they have done to the keyspace, and
they leave the same ledger. The latter takes a store where a failed write is not written, for
otherwise two failures of one kind may differ in what they leave. -/
theorem renewal_forgets {first second : Run fate} (hfirst : first.Renews)
    (hsecond : second.Renews) (halike : first.job.Alike second.job)
    (hlisting : first.listing = second.listing)
    (hagree : Agree first.job.timeout first.renewal second.renewal)
    (hclosing : first.closing = second.closing) :
    (fate = .undone →
      first.job.ledger.stored? first.after = second.job.ledger.stored? second.after) ∧
      first.trace.result.map Report.withoutAction =
        second.trace.result.map Report.withoutAction ∧
      first.StartsAnew ∧ second.StartsAnew := by
  obtain ⟨scripts, hfound, hne⟩ := hfirst.begins
  have hfound' : second.discovered = .ok scripts := by
    rw [← hfound]
    unfold discovered
    rw [halike.naming, halike.config, hlisting]
  obtain ⟨state, habsent, hrenewal, hafter, hresult⟩ := hfirst.parts hfound hne
  obtain ⟨state', habsent', hrenewal', hafter', hresult'⟩ := hsecond.parts hfound' hne
  rw [hrenewal, hrenewal'] at hagree
  refine ⟨?_, ?_, hfirst.startsAnew, hsecond.startsAnew⟩
  · rintro rfl
    rw [hafter, hafter']
    exact Job.stored?_rebuild halike first.keeps second.keeps (hfirst.leaves scripts hfound)
      (hsecond.leaves scripts hfound') habsent habsent' hagree
  · have hboth := Job.rebuild_inStep halike first.keeps second.keeps hagree
    rw [hresult, hresult', hclosing, hboth.result, Job.map_closed, Job.map_closed]
    rcases (second.job.rebuild second.session scripts state').result with error | report <;> rfl

end Run

/-! ## A sample -/

namespace Sample

/-- The job with a refresh. -/
def refreshing : Job :=
  { job with config := { job.config with refresh := true } }

/-- A run with a refresh in the store in memory. -/
def renewing (start : Store) : Run .undone where
  σ := Store
  session := Store.refusing .cql fun _ => false
  view := id
  start := start
  job := refreshing
  listing := listing
  keeps := Store.refusing_keeps .undone .cql (fun _ => false) hasColumn job.timeout

/-- A store whose ledger has a column for checksums, and a row that is no record. -/
def spoilt : Store :=
  ⟨[("orders", [("migrated_cql", ⟨true, [⟨-1, "V009__z.cql", none⟩]⟩)])]⟩

theorem discovered_renewing (start : Store) : (renewing start).discovered = .ok scripts :=
  discovered (fun _ => false) start

/-- Up to the end of the session, such a run comes to what its scripts come to. -/
theorem migrate_renewing (start : Store) :
    Task.trace (Store.refusing .cql fun _ => false) (refreshing.migrate listing) start =
      Task.trace (Store.refusing .cql fun _ => false) (refreshing.migrateScripts scripts) start := by
  have hfound : (discover refreshing.naming refreshing.config.scriptDirectory listing).result =
      .ok scripts := discovered_renewing start
  rw [Job.trace_migrate, hfound]
  rfl

theorem sent_renewing (start : Store) :
    (renewing start).trace.sent =
      (Task.trace (Store.refusing .cql fun _ => false) (refreshing.migrateScripts scripts)
        start).sent := by
  have hclosing := Job.trace_closingAfter (Store.refusing .cql fun _ => false)
    (refreshing.migrate listing) start
  rw [migrate_renewing] at hclosing
  exact congrArg Trace.sent hclosing

theorem renews {start : Store} (h : start = Store.empty ∨ start = spoilt) :
    (renewing start).Renews where
  refresh := rfl
  begins := ⟨scripts, discovered_renewing start, by decide⟩
  standing := by
    rcases h with rfl | rfl <;> decide
  leaves := leavesLedger (fun _ => false) start
  cleared := by
    unfold Run.opening
    rw [sent_renewing]
    rcases h with rfl | rfl <;> decide +kernel

end Sample

/-- A run from an absent keyspace, and one from a ledger of another layout with a row that is no
record. -/
theorem Run.renewal_forgets_sample :
    let first := Sample.renewing Store.empty
    let second := Sample.renewing Sample.spoilt
    first.Renews ∧ second.Renews ∧ Agree first.job.timeout first.renewal second.renewal ∧
      first.job.ledger.stored? first.after = second.job.ledger.stored? second.after ∧
      first.trace.result.map Report.withoutAction =
        second.trace.result.map Report.withoutAction ∧
      first.StartsAnew ∧ second.StartsAnew := by
  intro first second
  have hfirst : first.Renews := Sample.renews (.inl rfl)
  have hsecond : second.Renews := Sample.renews (.inr rfl)
  have hagree : Agree first.job.timeout first.renewal second.renewal := by
    unfold Run.renewal Agree
    rw [Sample.sent_renewing, Sample.sent_renewing]
    decide +kernel
  have hforgets := renewal_forgets hfirst hsecond rfl rfl hagree rfl
  exact ⟨hfirst, hsecond, hagree, hforgets.1 rfl, hforgets.2⟩

end SchemaMigration
