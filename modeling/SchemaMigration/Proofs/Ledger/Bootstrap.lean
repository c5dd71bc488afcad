import SchemaMigration.Proofs.Migration.Course
import SchemaMigration.Proofs.Store.Keeping

/-!
# What the bootstrap leaves in the store

The bootstrap is a sequence of statements that may break off anywhere, so it can leave the store in
four ways.

* `Ledger.CutShort`: the keyspace has been created, and then not the ledger in it.
* `Ledger.BootstrapEnding`: the ways in which a bootstrap may end.
* `Ledger.bootstrap_ending`: with any session that keeps the store, it ends in one of these.
* `Ledger.bootstrap_preserves`: what no request destroys holds throughout.
* `Ledger.bootstrap_rows`: the rows of the ledger are gone if the keyspace has been dropped, and
  else left alone.
-/

namespace SchemaMigration

namespace Ledger

variable {σ : Type} {fate : FailedWrite} {session : Session σ} {view : σ → Store} {l : Ledger}
  {timeout : Nat} {replication : Replication}

/-- A bootstrap that ends between its last two statements: the keyspace is created, and then the
creation of the ledger fails. -/
def CutShort (l : Ledger) (timeout : Nat) (replication : Replication) (sent : List (Exchange σ)) :
    Prop :=
  ∃ front keyspace table, sent = front ++ [keyspace, table] ∧
    keyspace.statement = (l.createKeyspace replication).withTimeout timeout ∧
    keyspace.Succeeded timeout ∧
    table.statement = l.createTable.withTimeout timeout ∧ ¬ table.Succeeded timeout

theorem CutShort.append {sent : List (Exchange σ)} (h : l.CutShort timeout replication sent)
    (before : List (Exchange σ)) : l.CutShort timeout replication (before ++ sent) := by
  obtain ⟨front, keyspace, table, hsent, hrest⟩ := h
  exact ⟨before ++ front, keyspace, table, by simp [hsent], hrest⟩

/-- A bootstrap that ends with another statement than the creation of the ledger is not cut
short. -/
theorem not_cutShort (before : List (Exchange σ)) {e : Exchange σ}
    (h : e.statement ≠ l.createTable.withTimeout timeout) :
    ¬ l.CutShort timeout replication (before ++ [e]) := by
  rintro ⟨front, keyspace, table, hsent, -, -, htable, -⟩
  have hlast : before ++ [e] = (front ++ [keyspace]) ++ [table] := by simpa using hsent
  have heq : e = table := by simpa using (List.append_inj' hlast rfl).2
  exact h (heq ▸ htable)

/-- The statement that creates a table is told apart by the initial of its object. -/
theorem ne_createTable {statement : Statement} (h : statement.text.toList[7]? ≠ some 'T') :
    statement.withTimeout timeout ≠ l.createTable.withTimeout timeout := by
  intro heq
  have htext : (statement.withTimeout timeout).text = (l.createTable.withTimeout timeout).text :=
    congrArg Statement.text heq
  change statement.text = l.createTable.text at htext
  rw [htext] at h
  simp [createTable, Statement.execute] at h

theorem listTables_ne_createTable :
    l.listTables.withTimeout timeout ≠ l.createTable.withTimeout timeout := by
  apply ne_createTable
  unfold listTables
  split <;> simp [Statement.query]

theorem dropKeyspace_ne_createTable :
    l.dropKeyspace.withTimeout timeout ≠ l.createTable.withTimeout timeout := by
  apply ne_createTable
  unfold dropKeyspace
  split <;> simp [Statement.execute]

theorem createKeyspace_ne_createTable :
    (l.createKeyspace replication).withTimeout timeout ≠ l.createTable.withTimeout timeout := by
  apply ne_createTable
  unfold createKeyspace
  split <;> simp [Statement.execute]

/-- How the creation of the keyspace and the ledger may end: both are there, or nothing has been
done, or it is cut short. -/
theorem attempt_creationSteps (hkeeps : session.Keeps fate view l timeout)
    (replication : Replication) (state : σ) :
    let t := session.attempt timeout (l.creationSteps replication) state
    (t.result = .ok () ∧ l.stored? (view t.state) = some ⟨l.checksums, []⟩) ∨
    (∃ error e, t.result = .error (l.bootstrapError error) ∧ t.sent = [e] ∧
      e.statement ≠ l.createTable.withTimeout timeout ∧ view t.state = view state) ∨
    (∃ error, t.result = .error (l.bootstrapError error) ∧
      l.CutShort timeout replication t.sent ∧ l.tables? (view t.state) = some []) := by
  intro t
  have ht : t = (session.ask timeout (l.createKeyspace replication) l.bootstrapError state).bind
      fun _ state => session.attempt timeout [⟨l.createTable, l.bootstrapError⟩] state := rfl
  obtain ⟨e, hsent, hstatement, -, hcase⟩ :=
    hkeeps.ask_cases_of_ne (r := .createKeyspace replication) (by simp) l.bootstrapError state
  rcases hcase with ⟨rows, hok, hsucc, hdone⟩ | ⟨error, herror, -, hsame⟩
  · -- the keyspace is there
    have htables := (Request.done_createKeyspace hdone).2
    obtain ⟨f, hsent', hstatement', -, hcase'⟩ := hkeeps.ask_cases_of_ne (r := .createTable)
      (by simp) l.bootstrapError
      (session.ask timeout (l.createKeyspace replication) l.bootstrapError state).state
    simp only [Request.statement] at hok hsent hsent' hcase'
    rw [Trace.bind_of_ok hok, session.attempt_single, hsent] at ht
    rw [ht]
    rcases hcase' with ⟨rows', hok', -, hdone'⟩ | ⟨error', herror', hnot', hsame'⟩
    · left
      have hstored := (Request.done_createTable hdone').2.2
      exact ⟨congrArg (Except.map fun _ => ()) hok', hstored⟩
    · right; right
      refine ⟨error', congrArg (Except.map fun _ => ()) herror', ?_, ?_⟩
      · exact ⟨[], e, f, by simp [Trace.map, hsent'], hstatement, hsucc, hstatement', hnot'⟩
      · exact (congrArg l.tables? hsame').trans htables
  · -- nothing has been done
    right; left
    simp only [Request.statement] at herror hsent hsame
    rw [Trace.bind_of_error herror] at ht
    rw [ht]
    refine ⟨error, e, rfl, hsent, ?_, hsame⟩
    rw [hstatement]
    exact createKeyspace_ne_createTable

/-- The ways in which a bootstrap may end. -/
inductive BootstrapEnding (l : Ledger) (timeout : Nat) (replication : Replication) (refresh : Bool)
    (view : σ → Store) (state : σ) (t : Trace σ MigrationError KeyspaceAction) : Prop where
  /-- The keyspace has tables and is left alone. -/
  | unchanged (hresult : t.result = .ok .unchanged) (hrefresh : refresh = false)
      (htables : (l.tables? (view state)).getD [] ≠ []) (hsame : view t.state = view state)
  /-- The keyspace has been created, perhaps after it has been dropped, with an empty ledger. -/
  | renewed (action : KeyspaceAction) (hresult : t.result = .ok action)
      (haction : action ≠ .unchanged)
      (hcause : refresh = true ∨ (l.tables? (view state)).getD [] = [])
      (hstored : l.stored? (view t.state) = some ⟨l.checksums, []⟩)
  /-- A statement has failed before the keyspace was created. -/
  | failed (error : SessionError) (hresult : t.result = .error (l.bootstrapError error))
      (hcut : ¬ l.CutShort timeout replication t.sent)
      (hstore : view t.state = view state ∨ l.tables? (view t.state) = none)
  /-- The keyspace has been created without the ledger. -/
  | cutShort (error : SessionError) (hresult : t.result = .error (l.bootstrapError error))
      (hcut : l.CutShort timeout replication t.sent) (hbare : l.tables? (view t.state) = some [])

/-- A bootstrap that ends with the creation of the keyspace and the ledger, after statements that
have at most dropped the keyspace. -/
theorem bootstrapEnding_of_creation (hkeeps : session.Keeps fate view l timeout)
    {refresh : Bool} {state start : σ} {action : KeyspaceAction} (haction : action ≠ .unchanged)
    (hcause : refresh = true ∨ (l.tables? (view state)).getD [] = [])
    (hstart : view start = view state ∨ l.tables? (view start) = none)
    (before : List (Exchange σ)) :
    l.BootstrapEnding timeout replication refresh view state
      (let t := (session.attempt timeout (l.creationSteps replication) start).map fun _ => action
       { t with sent := before ++ t.sent }) := by
  rcases attempt_creationSteps hkeeps replication start with
    ⟨hok, hstored⟩ | ⟨error, e, herror, hsent, hne, hsame⟩ | ⟨error, herror, hcut, hbare⟩
  · exact .renewed action (congrArg (Except.map fun _ => action) hok) haction hcause hstored
  · refine .failed error (congrArg (Except.map fun _ => action) herror) ?_ ?_
    · simp only [Trace.map, hsent]
      exact not_cutShort before hne
    · rcases hstart with hstart | hstart
      · exact .inl (hsame.trans hstart)
      · exact .inr ((congrArg l.tables? hsame).trans hstart)
  · exact .cutShort error (congrArg (Except.map fun _ => action) herror) (hcut.append before) hbare

/-- The same after the keyspace has been dropped, unless that fails. -/
theorem bootstrapEnding_of_drop (hkeeps : session.Keeps fate view l timeout)
    {state start : σ} (hstart : view start = view state) (before : List (Exchange σ)) :
    l.BootstrapEnding timeout replication true view state
      (let t := (session.attempt timeout (⟨l.dropKeyspace, l.bootstrapError⟩ ::
          l.creationSteps replication) start).map fun _ => KeyspaceAction.recreated
       { t with sent := before ++ t.sent }) := by
  obtain ⟨e, hsent, hstatement, -, hcase⟩ :=
    hkeeps.ask_cases_of_ne (r := .dropKeyspace) (by simp) l.bootstrapError start
  simp only [Request.statement] at hsent hstatement hcase
  rw [Session.attempt]
  rcases hcase with ⟨rows, hok, -, hdone⟩ | ⟨error, herror, -, hsame⟩
  · have hdropped := (Request.done_dropKeyspace hdone).2
    have hcreation : l.BootstrapEnding timeout replication true view state _ :=
      bootstrapEnding_of_creation hkeeps (by simp : KeyspaceAction.recreated ≠ .unchanged)
        (.inl rfl) (.inr hdropped) (before ++ [e])
    rw [Trace.bind_of_ok hok, hsent]
    simpa [Trace.map] using hcreation
  · rw [Trace.bind_of_error herror, hsent]
    refine .failed error rfl ?_ (.inl (hsame.trans hstart))
    exact not_cutShort before (hstatement ▸ dropKeyspace_ne_createTable)

/-- With any session that keeps the store, a bootstrap ends in one of four ways. -/
theorem bootstrap_ending (hkeeps : session.Keeps fate view l timeout) (replication : Replication)
    (refresh : Bool) (state : σ) :
    l.BootstrapEnding timeout replication refresh view state
      (Task.trace session (l.bootstrap timeout replication refresh) state) := by
  rw [trace_bootstrap]
  obtain ⟨e, hsent, hstatement, -, hcase⟩ :=
    hkeeps.ask_cases_of_ne (r := .listTables) (by simp) l.bootstrapError state
  simp only [Request.statement] at hsent hstatement hcase
  rcases hcase with ⟨tables, hok, -, hdone⟩ | ⟨error, herror, -, hsame⟩
  · obtain ⟨hsame, hlisted⟩ := Request.done_listTables hdone
    rw [Trace.bind_of_ok hok, hsent]
    -- whether tables are listed decides which steps follow
    rcases hempty : tables.isEmpty with _ | _
    · have hne : (l.tables? (view state)).getD [] ≠ [] := by
        intro hnil
        rw [hlisted.mpr hnil] at hempty
        cases hempty
      simp only [Answer.ofRows, bootstrapSteps, actionOn, hempty]
      rcases refresh with _ | _
      · exact .unchanged rfl rfl hne hsame
      · exact bootstrapEnding_of_drop hkeeps hsame [e]
    · have hnil : (l.tables? (view state)).getD [] = [] :=
        hlisted.mp (List.isEmpty_iff.mp hempty)
      simp only [Answer.ofRows, bootstrapSteps, actionOn, hempty]
      exact bootstrapEnding_of_creation hkeeps (by simp) (.inr hnil) (.inl hsame) [e]
  · rw [Trace.bind_of_error herror, hsent]
    refine .failed error rfl ?_ (.inl hsame)
    exact not_cutShort [] (hstatement ▸ listTables_ne_createTable)

/-- A bootstrap that fails names the keyspace. -/
theorem error_of_bootstrap (hkeeps : session.Keeps fate view l timeout) {refresh : Bool}
    {state : σ} {error : MigrationError}
    (h : (Task.trace session (l.bootstrap timeout replication refresh) state).result =
      .error error) : ∃ reason, error = .bootstrap l.keyspace.text reason := by
  rcases bootstrap_ending hkeeps replication refresh state with
    ⟨hresult, -, -, -⟩ | ⟨action, hresult, -, -, -⟩ | ⟨reason, hresult, -, -⟩ |
    ⟨reason, hresult, -, -⟩
  · cases h.symm.trans hresult
  · cases h.symm.trans hresult
  · exact ⟨reason, Except.error.inj (h.symm.trans hresult)⟩
  · exact ⟨reason, Except.error.inj (h.symm.trans hresult)⟩

/-- A bootstrap that goes through is not cut short. -/
theorem not_cutShort_of_ok {refresh : Bool} {state : σ} {action : KeyspaceAction}
    (h : (Task.trace session (l.bootstrap timeout replication refresh) state).result =
      .ok action) :
    ¬ l.CutShort timeout replication
      (Task.trace session (l.bootstrap timeout replication refresh) state).sent := by
  rintro ⟨front, keyspace, table, hsent, -, -, -, hnot⟩
  have hlast : table ∈
      (Task.trace session (l.bootstrap timeout replication refresh) state).sent := by
    simp [hsent]
  exact hnot (bootstrap_strict session l timeout replication refresh state action h table hlast)

/-! ## What the bootstrap preserves -/

/-- The steps of the bootstrap are requests of the ledger. Without a refresh nothing is dropped. -/
theorem request_of_mem_bootstrapSteps {refresh : Bool} {tables : List Row} {step : Step}
    (h : step ∈ l.bootstrapSteps replication refresh tables) :
    ∃ request : Request, step = ⟨request.statement l, l.bootstrapError⟩ ∧
      (refresh = false → request ≠ .dropKeyspace) := by
  have hcreation : step ∈ l.creationSteps replication →
      ∃ request : Request, step = ⟨request.statement l, l.bootstrapError⟩ ∧
        (refresh = false → request ≠ .dropKeyspace) := by
    intro hstep
    simp only [creationSteps, List.mem_cons, List.not_mem_nil, or_false] at hstep
    rcases hstep with rfl | rfl
    · exact ⟨.createKeyspace replication, rfl, by simp⟩
    · exact ⟨.createTable, rfl, by simp⟩
  unfold bootstrapSteps at h
  split at h
  · exact hcreation h
  · split at h
    · next hrefresh =>
        rcases List.mem_cons.mp h with rfl | h
        · exact ⟨.dropKeyspace, rfl, by simp [hrefresh]⟩
        · exact hcreation h
    · cases h

/-- What no request destroys holds throughout the bootstrap. -/
theorem bootstrap_preserves (hkeeps : session.Keeps fate view l timeout) {P : Store → Prop}
    (hrequests : ∀ request : Request, session.Preserves view timeout P (request.statement l))
    (replication : Replication) (refresh : Bool) {state : σ} (hstate : P (view state)) :
    let t := Task.trace session (l.bootstrap timeout replication refresh) state
    P (view t.state) ∧ ∀ e ∈ t.sent, P (view e.after) := by
  intro t
  have hask := hkeeps.ask_preserves (hrequests .listTables) l.bootstrapError hstate
  simp only [Request.statement] at hask
  have ht : t = _ := trace_bootstrap session l timeout replication refresh state
  rcases hresult : (session.ask timeout l.listTables l.bootstrapError state).result with
    error | answer
  · rw [Trace.bind_of_error hresult] at ht
    rw [ht]
    exact hask
  · rw [Trace.bind_of_ok hresult] at ht
    have hsteps : ∀ step ∈ l.bootstrapSteps replication refresh answer.rows,
        session.Preserves view timeout P step.statement := by
      intro step hstep
      obtain ⟨request, rfl, -⟩ := request_of_mem_bootstrapSteps hstep
      exact hrequests request
    obtain ⟨hend, hmoments⟩ := hkeeps.attempt_preserves hsteps hask.1
    rw [ht]
    exact ⟨hend, List.forall_mem_append.mpr ⟨hask.2, hmoments⟩⟩

/-! ## The rows of the ledger -/

/-- The keyspace has been dropped. -/
def Dropped (l : Ledger) (timeout : Nat) (sent : List (Exchange σ)) : Prop :=
  ∃ e ∈ sent, e.statement = l.dropKeyspace.withTimeout timeout ∧ e.Succeeded timeout

theorem dropped_cons {e : Exchange σ} {sent : List (Exchange σ)} :
    l.Dropped timeout (e :: sent) ↔
      (e.statement = l.dropKeyspace.withTimeout timeout ∧ e.Succeeded timeout) ∨
        l.Dropped timeout sent := by
  simp [Dropped]

theorem not_dropped_nil : ¬ l.Dropped timeout ([] : List (Exchange σ)) := by
  simp [Dropped]

/-- The statement that drops the keyspace is told apart by its initial. -/
theorem ne_dropKeyspace {statement : Statement} (h : statement.text.toList.head? ≠ some 'D') :
    statement.withTimeout timeout ≠ l.dropKeyspace.withTimeout timeout := by
  intro heq
  have htext : (statement.withTimeout timeout).text = (l.dropKeyspace.withTimeout timeout).text :=
    congrArg Statement.text heq
  change statement.text = l.dropKeyspace.text at htext
  rw [htext] at h
  unfold dropKeyspace at h
  split at h <;> simp [Statement.execute] at h

theorem listTables_ne_dropKeyspace :
    l.listTables.withTimeout timeout ≠ l.dropKeyspace.withTimeout timeout := by
  apply ne_dropKeyspace
  unfold listTables
  split <;> simp [Statement.query]

theorem creationSteps_ne_dropKeyspace : ∀ step ∈ l.creationSteps replication,
    step.statement.withTimeout timeout ≠ l.dropKeyspace.withTimeout timeout := by
  intro step hstep
  apply ne_dropKeyspace
  simp only [creationSteps, List.mem_cons, List.not_mem_nil, or_false] at hstep
  rcases hstep with rfl | rfl
  · simp only [createKeyspace]
    split <;> simp [Statement.execute]
  · simp [createTable, Statement.execute]

/-- The creation of the keyspace and the ledger drops nothing and leaves the rows alone. -/
theorem attempt_creationSteps_rows (hkeeps : session.Keeps fate view l timeout)
    (replication : Replication) (state : σ) :
    let t := session.attempt timeout (l.creationSteps replication) state
    ¬ l.Dropped timeout t.sent ∧ l.storedRows (view t.state) = l.storedRows (view state) ∧
      ∀ e ∈ t.sent, l.storedRows (view e.after) = l.storedRows (view state) := by
  intro t
  have hsteps : ∀ step ∈ l.creationSteps replication, session.Preserves view timeout
      (fun s => l.storedRows s = l.storedRows (view state)) step.statement := by
    intro step hstep
    simp only [creationSteps, List.mem_cons, List.not_mem_nil, or_false] at hstep
    rcases hstep with rfl | rfl
    · exact hkeeps.preserves_storedRows (r := .createKeyspace replication) (by simp) (by simp) _
    · exact hkeeps.preserves_storedRows (r := .createTable) (by simp) (by simp) _
  refine ⟨?_, hkeeps.attempt_preserves hsteps rfl⟩
  rintro ⟨e, he, hdrop, -⟩
  -- what is sent is among the statements of the steps
  have hfollows := (session.attempt_attempts timeout (l.creationSteps replication) state).failFast
  have hmem := hfollows.follows.subset (List.mem_map_of_mem (f := (·.statement)) he)
  obtain ⟨step, hstep, hstatement⟩ := List.mem_map.mp hmem
  exact creationSteps_ne_dropKeyspace step hstep (hstatement.trans hdrop)

/-- What the bootstrap makes of the rows: they are gone if it has dropped the keyspace, and else
they are left alone throughout. -/
theorem bootstrap_rows (hkeeps : session.Keeps fate view l timeout) (replication : Replication)
    (refresh : Bool) (state : σ) :
    let t := Task.trace session (l.bootstrap timeout replication refresh) state
    (¬ l.Dropped timeout t.sent ∧ l.storedRows (view t.state) = l.storedRows (view state) ∧
      ∀ e ∈ t.sent, l.storedRows (view e.after) = l.storedRows (view state)) ∨
    (l.Dropped timeout t.sent ∧ refresh = true ∧ l.storedRows (view t.state) = []) := by
  intro t
  have ht : t = _ := trace_bootstrap session l timeout replication refresh state
  obtain ⟨e, hsent, hstatement, hview, hcase⟩ :=
    hkeeps.ask_cases_of_ne (r := .listTables) (by simp) l.bootstrapError state
  simp only [Request.statement] at hsent hstatement hview hcase
  have hlisted : e.statement ≠ l.dropKeyspace.withTimeout timeout :=
    hstatement ▸ listTables_ne_dropKeyspace
  rcases hcase with ⟨tables, hok, -, hdone⟩ | ⟨error, herror, -, hsame⟩
  · have hsame := (Request.done_listTables hdone).1
    have hafter : view e.after = view state := hview.trans hsame
    have hcreation := attempt_creationSteps_rows hkeeps replication
      (session.ask timeout l.listTables l.bootstrapError state).state
    rw [hsame] at hcreation
    obtain ⟨hnot, hend, hmoments⟩ := hcreation
    rw [Trace.bind_of_ok hok, hsent] at ht
    rw [ht]
    simp only [Answer.ofRows, bootstrapSteps, Trace.map]
    by_cases hempty : tables.isEmpty = true
    · left
      simp only [hempty, if_true, List.forall_mem_append, List.forall_mem_singleton, hafter]
      exact ⟨by simp [dropped_cons, hlisted, hnot], hend, trivial, hmoments⟩
    · by_cases hrefresh : refresh = true
      · simp only [hempty, hrefresh, Bool.false_eq_true, if_false, if_true, Session.attempt]
        obtain ⟨f, hsent', hstatement', hview', hcase'⟩ :=
          hkeeps.ask_cases_of_ne (r := .dropKeyspace) (by simp) l.bootstrapError
            (session.ask timeout l.listTables l.bootstrapError state).state
        simp only [Request.statement] at hsent' hstatement' hview' hcase'
        rcases hcase' with ⟨rows, hok', hsucc', hdone'⟩ | ⟨error', herror', hnot', hsame'⟩
        · -- the rows are gone with the keyspace, and what follows adds none
          right
          have hgone := storedRows_of_none
            (stored?_of_tables?_none (Request.done_dropKeyspace hdone').2)
          have hrenewed := (attempt_creationSteps_rows hkeeps replication
            (session.ask timeout l.dropKeyspace l.bootstrapError
              (session.ask timeout l.listTables l.bootstrapError state).state).state).2.1
          rw [Trace.bind_of_ok hok', hsent']
          exact ⟨⟨f, by simp, hstatement', hsucc'⟩, trivial, hrenewed.trans hgone⟩
        · left
          rw [Trace.bind_of_error herror', hsent']
          simp only [List.singleton_append, List.forall_mem_cons, hafter, hview', hsame', hsame]
          refine ⟨?_, trivial, trivial, trivial, by simp⟩
          simp [dropped_cons, not_dropped_nil, hlisted, hnot']
      · left
        simp only [hempty, hrefresh, Bool.false_eq_true, if_false, Session.attempt,
          List.append_nil, hsame, List.forall_mem_singleton, hafter]
        exact ⟨by simp [dropped_cons, not_dropped_nil, hlisted], trivial, trivial⟩
  · left
    rw [Trace.bind_of_error herror, hsent] at ht
    rw [ht]
    simp only [List.forall_mem_singleton, hview, hsame]
    exact ⟨by simp [dropped_cons, not_dropped_nil, hlisted], trivial, trivial⟩

/-! ## Without faults of the session -/

/-- The keyspace and the ledger are created if the keyspace is not there. -/
theorem attempt_creationSteps_of_grants (hkeeps : session.Keeps fate view l timeout)
    (hgrants : session.Grants view l timeout) (replication : Replication) {state : σ}
    (habsent : l.tables? (view state) = none) :
    (session.attempt timeout (l.creationSteps replication) state).result = .ok () := by
  have hsteps : session.attempt timeout (l.creationSteps replication) state =
      (session.ask timeout (l.createKeyspace replication) l.bootstrapError state).bind
        fun _ state => session.attempt timeout [⟨l.createTable, l.bootstrapError⟩] state := rfl
  obtain ⟨rows, hok, hdone⟩ := hkeeps.ask_of_grants hgrants
    (Request.possible_createKeyspace habsent replication) l.bootstrapError
  have hbare := (Request.done_createKeyspace hdone).2
  obtain ⟨rows', hok', -⟩ := hkeeps.ask_of_grants hgrants
    (Request.possible_createTable hbare) l.bootstrapError
  simp only [Request.statement] at hok hok'
  rw [hsteps, Trace.bind_of_ok hok, session.attempt_single]
  exact congrArg (Except.map fun _ => ()) hok'

/-- The bootstrap goes through unless the keyspace is there without tables. -/
theorem bootstrap_of_grants (hkeeps : session.Keeps fate view l timeout)
    (hgrants : session.Grants view l timeout) (replication : Replication) (refresh : Bool)
    {state : σ} (hnot : l.tables? (view state) ≠ some []) :
    ∃ action,
      (Task.trace session (l.bootstrap timeout replication refresh) state).result = .ok action := by
  rw [trace_bootstrap]
  obtain ⟨tables, hok, hdone⟩ := hkeeps.ask_of_grants hgrants
    (Request.possible_listTables l (view state)) l.bootstrapError
  obtain ⟨hsame, hlisted⟩ := Request.done_listTables hdone
  simp only [Request.statement] at hok hsame
  rw [Trace.bind_of_ok hok]
  have hcreated : ∀ {start : σ}, l.tables? (view start) = none →
      (session.attempt timeout (l.creationSteps replication) start).result = .ok () :=
    attempt_creationSteps_of_grants hkeeps hgrants replication
  rcases htables : l.tables? (view state) with _ | ⟨_ | ⟨table, others⟩⟩
  · -- the keyspace is absent, as the listing says
    have hnil : tables = [] := hlisted.mpr (by rw [htables]; rfl)
    rw [← hsame] at htables
    refine ⟨.created, ?_⟩
    simp only [hnil, Answer.ofRows, bootstrapSteps, actionOn]
    exact congrArg (Except.map _) (hcreated htables)
  · exact absurd htables hnot
  · have hempty : tables.isEmpty = false := by
      rw [← Bool.not_eq_true, List.isEmpty_iff, hlisted, htables]
      exact List.cons_ne_nil table others
    simp only [Answer.ofRows, bootstrapSteps, actionOn, hempty]
    rcases refresh with _ | _
    · exact ⟨.unchanged, rfl⟩
    · -- once it has been dropped, the keyspace is absent as well
      refine ⟨.recreated, ?_⟩
      rw [← hsame] at htables
      obtain ⟨rows, hdropped, hdone'⟩ := hkeeps.ask_of_grants hgrants
        (Request.possible_dropKeyspace htables) l.bootstrapError
      have habsent := (Request.done_dropKeyspace hdone').2
      simp only [Request.statement] at hdropped habsent
      simp only [Bool.false_eq_true, if_false, if_true, Session.attempt, Trace.bind_of_ok hdropped]
      exact congrArg (Except.map fun _ => KeyspaceAction.recreated) (hcreated habsent)

/-- A keyspace without tables stays as it is, and keeps the bootstrap from going through. -/
theorem bootstrap_of_bare (hkeeps : session.Keeps fate view l timeout)
    (replication : Replication) (refresh : Bool) {state : σ}
    (hbare : l.tables? (view state) = some []) :
    let t := Task.trace session (l.bootstrap timeout replication refresh) state
    (∃ error, t.result = .error (l.bootstrapError error)) ∧
      ¬ l.CutShort timeout replication t.sent ∧ l.tables? (view t.state) = some [] := by
  intro t
  have ht : t = _ := trace_bootstrap session l timeout replication refresh state
  obtain ⟨e, hsent, hstatement, -, hcase⟩ :=
    hkeeps.ask_cases_of_ne (r := .listTables) (by simp) l.bootstrapError state
  simp only [Request.statement] at hsent hstatement hcase
  rcases hcase with ⟨tables, hok, -, hdone⟩ | ⟨error, herror, -, hsame⟩
  · obtain ⟨hsame, hlisted⟩ := Request.done_listTables hdone
    have hnil : tables = [] := hlisted.mpr (by rw [hbare]; rfl)
    rw [← hsame] at hbare
    rw [Trace.bind_of_ok hok, hsent] at ht
    simp only [hnil, Answer.ofRows, bootstrapSteps, actionOn, List.isEmpty_nil, if_true,
      creationSteps, Session.attempt] at ht
    -- the keyspace cannot be created again
    obtain ⟨f, hsent', hstatement', -, hcase'⟩ :=
      hkeeps.ask_cases_of_ne (r := .createKeyspace replication) (by simp) l.bootstrapError
        (session.ask timeout l.listTables l.bootstrapError state).state
    simp only [Request.statement] at hsent' hstatement' hcase'
    rcases hcase' with ⟨rows, -, -, hdone'⟩ | ⟨error, herror, -, hsame'⟩
    · rw [(Request.done_createKeyspace hdone').1] at hbare
      cases hbare
    · rw [Trace.bind_of_error herror, hsent'] at ht
      rw [ht]
      refine ⟨⟨error, rfl⟩, ?_, (congrArg l.tables? hsame').trans hbare⟩
      exact not_cutShort [e] (hstatement' ▸ createKeyspace_ne_createTable)
  · rw [Trace.bind_of_error herror, hsent] at ht
    rw [ht]
    refine ⟨⟨error, rfl⟩, ?_, (congrArg l.tables? hsame).trans hbare⟩
    exact not_cutShort [] (hstatement ▸ listTables_ne_createTable)

end Ledger

end SchemaMigration
