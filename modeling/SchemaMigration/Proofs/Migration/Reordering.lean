import SchemaMigration.Proofs.Ledger.RowOrder
import SchemaMigration.Proofs.Migration.Inspection

/-!
# Runs that read the ledger in another order

Two sessions that answer everything alike, except that the rows of the ledger come in different
orders. A run with the one sends the same statements as with the other, to the same effect, and both
end alike; so do two statuses.

* `Session.Reorders`: the second session is the first one with rows in another order.
* `EndsAlike`: two results that are the same but for what a tie or the order of rows decides.
* `Trace.Alike`: the same statements, the same state, and results that are alike.
* `Job.row_order_irrelevant`: the order of the rows does not matter.
-/

namespace SchemaMigration

variable {σ : Type}

/-! ## Results that are alike -/

/-- Two results that are alike. Both are values that are related, or both are the same error, or
both are about a row that is no record, or both are about a script that has changed. -/
inductive EndsAlike {α : Type} (l : Ledger) (related : α → α → Prop) :
    Except MigrationError α → Except MigrationError α → Prop
  | ok {value value' : α} (h : related value value') : EndsAlike l related (.ok value) (.ok value')
  | same (error : MigrationError) : EndsAlike l related (.error error) (.error error)
  | malformed (reason reason' : String) : EndsAlike l related
      (.error (.ledgerRow l.qualified reason)) (.error (.ledgerRow l.qualified reason'))
  | modified (name name' : String) : EndsAlike l related
      (.error (.modified name l.qualified)) (.error (.modified name' l.qualified))

namespace EndsAlike

variable {α β : Type} {l : Ledger} {related : α → α → Prop}

theorem refl (hrelated : ∀ value, related value value) (result : Except MigrationError α) :
    EndsAlike l related result result := by
  cases result with
  | error error => exact .same error
  | ok value => exact .ok (hrelated value)

theorem closed {result result' : Except MigrationError α} (h : EndsAlike l related result result')
    (close : Option SessionError) :
    EndsAlike l related (Job.closed result close) (Job.closed result' close) := by
  cases close with
  | none => exact h
  | some reason =>
      cases h with
      | ok => exact .same (.close reason)
      | same error => exact .same error
      | malformed reason reason' => exact .malformed reason reason'
      | modified name name' => exact .modified name name'

end EndsAlike

/-- Two traces with the same statements, the same state at the end, and results that are alike. -/
structure Trace.Alike {α : Type} (l : Ledger) (related : α → α → Prop)
    (first second : Trace σ MigrationError α) : Prop where
  result : EndsAlike l related first.result second.result
  state : first.state = second.state
  statements : first.sent.map (·.statement) = second.sent.map (·.statement)

namespace Trace.Alike

variable {α β : Type} {l : Ledger} {related : α → α → Prop}

theorem refl (hrelated : ∀ value, related value value) (t : Trace σ MigrationError α) :
    t.Alike l related t :=
  ⟨.refl hrelated t.result, rfl, rfl⟩

/-- What follows the same trace alike is alike as a whole. -/
theorem after (t : Trace σ MigrationError β) {next next' : β → σ → Trace σ MigrationError α}
    (h : ∀ value state, (next value state).Alike l related (next' value state)) :
    (t.bind next).Alike l related (t.bind next') := by
  rcases hresult : t.result with error | value
  · rw [bind_of_error hresult, bind_of_error hresult]
    exact ⟨.same error, rfl, rfl⟩
  · rw [bind_of_ok hresult, bind_of_ok hresult]
    have hnext := h value t.state
    exact ⟨hnext.result, hnext.state, by simp [hnext.statements]⟩

end Trace.Alike

/-! ## Sessions -/

/-- Two replies that are the same but for the order of the rows. -/
inductive Reply.Reordered : Reply → Reply → Prop
  | same (reply : Reply) : Reordered reply reply
  | rows (elapsed : Nat) {rows rows' : List Row} (h : rows.Perm rows') :
      Reordered ⟨elapsed, .ok (.ofRows rows)⟩ ⟨elapsed, .ok (.ofRows rows')⟩

namespace Session

/-- The second session does as the first one does, but when the ledger is read it may answer with
the rows in another order, and with a new one every time. -/
structure Reorders (first second : Session σ) (l : Ledger) (timeout : Nat) : Prop where
  others : ∀ state statement, statement ≠ l.selectRows.withTimeout timeout →
    second.send state statement = first.send state statement
  reading : ∀ state,
    (second.send state (l.selectRows.withTimeout timeout)).2 =
        (first.send state (l.selectRows.withTimeout timeout)).2 ∧
      (first.send state (l.selectRows.withTimeout timeout)).1.Reordered
        (second.send state (l.selectRows.withTimeout timeout)).1
  cancel : second.cancel = first.cancel
  close : second.close = first.close

namespace Reorders

variable {first second : Session σ} {l : Ledger} {timeout : Nat}

theorem ask_eq {ε : Type} (h : first.Reorders second l timeout) {statement : Statement}
    (hother : statement.withTimeout timeout ≠ l.selectRows.withTimeout timeout)
    (wrap : SessionError → ε) (state : σ) :
    second.ask timeout statement wrap state = first.ask timeout statement wrap state := by
  unfold Session.ask
  rw [h.others state _ hother, h.cancel]

theorem attempt_eq (h : first.Reorders second l timeout) {steps : List Step}
    (hothers : ∀ step ∈ steps,
      step.statement.withTimeout timeout ≠ l.selectRows.withTimeout timeout) (state : σ) :
    second.attempt timeout steps state = first.attempt timeout steps state := by
  induction steps generalizing state with
  | nil => rfl
  | cons step steps ih =>
      obtain ⟨hstep, hsteps⟩ := List.forall_mem_cons.mp hothers
      -- after the same step both go on in the same state
      rw [Session.attempt, Session.attempt, h.ask_eq hstep]
      congr 1
      funext _ state
      exact ih hsteps state

/-- Reading the ledger fails with the same error, or it gives the same rows in another order. -/
theorem ask_selectRows {ε : Type} (h : first.Reorders second l timeout) (wrap : SessionError → ε)
    (state : σ) :
    let read := first.ask timeout l.selectRows wrap state
    let read' := second.ask timeout l.selectRows wrap state
    read.state = read'.state ∧ read.sent.map (·.statement) = read'.sent.map (·.statement) ∧
      ((∃ rows rows', rows.Perm rows' ∧ read.result = .ok (.ofRows rows) ∧
          read'.result = .ok (.ofRows rows')) ∨
        ∃ error, read.result = .error error ∧ read'.result = .error error) := by
  intro read read'
  obtain ⟨hafter, hreplies⟩ := h.reading state
  rcases hsend : first.send state (l.selectRows.withTimeout timeout) with ⟨reply, after⟩
  rcases hsend' : second.send state (l.selectRows.withTimeout timeout) with ⟨reply', after'⟩
  simp only [hsend, hsend'] at hafter hreplies
  subst hafter
  simp only [read, read', Session.ask, hsend, hsend', h.cancel]
  cases hreplies with
  | same =>
      rcases hrows : reply.rows? timeout with _ | rows
      · exact ⟨rfl, rfl, .inr ⟨_, rfl, rfl⟩⟩
      · exact ⟨rfl, rfl, .inl ⟨rows, rows, .rfl, rfl, rfl⟩⟩
  | @rows elapsed rows rows' hperm =>
      -- both replies take the same time, so both are late or neither is
      by_cases hlate : timeout < elapsed
      · simp [Reply.rows?, Reply.fault, hlate]
      · simp [Reply.rows?, hlate, Answer.ofRows, hperm]

end Reorders

end Session

/-! ## Decisions -/

/-- What two statuses have in common whose rows came in different orders. -/
structure SameStatus (scripts : List Script) (first second : Status) : Prop where
  keyspace : first.keyspace = second.keyspace
  keyspacePresent : first.keyspacePresent = second.keyspacePresent
  lastApplied : first.lastApplied = second.lastApplied
  pending : first.pending = second.pending
  applied : SameUpToTies first.applied second.applied
  modified : SameModified scripts first.applied second.applied first.modified second.modified

namespace Job

variable {job : Job} {scripts : List Script} {rows rows' : List Row}

/-- A run decides the same for rows in another order. -/
theorem duty_of_perm (job : Job) (scripts : List Script) (h : rows.Perm rows') :
    EndsAlike job.ledger Eq (job.duty scripts rows) (job.duty scripts rows') := by
  rcases job.ledger.decodeRows_cases h with ⟨records, records', hrows, hrows', hperm⟩ |
    ⟨reason, reason', hrows, hrows'⟩
  · have hnil := ((sameUpToTies_sortRecords hperm).sameModified scripts).eq_nil_iff
    have hnewest := newestVersion_perm hperm
    simp only [duty, hrows, hrows']
    rcases hnames : modifiedNames scripts (Ledger.sortRecords records) with _ | ⟨name, names⟩
    · rw [hnil.mp hnames, hnewest]
      exact .ok rfl
    · rcases hnames' : modifiedNames scripts (Ledger.sortRecords records') with _ | ⟨name', names'⟩
      · rw [hnil.mpr hnames'] at hnames
        cases hnames
      · exact .modified name name'
  · rw [duty_of_malformed hrows, duty_of_malformed hrows']
    exact .malformed reason reason'

/-- A status tells the same of rows in another order. -/
theorem survey_of_perm (job : Job) (scripts : List Script) (h : rows.Perm rows') :
    EndsAlike job.ledger (SameStatus scripts) (job.survey scripts rows)
      (job.survey scripts rows') := by
  rcases job.ledger.decodeRows_cases h with ⟨records, records', hrows, hrows', hperm⟩ |
    ⟨reason, reason', hrows, hrows'⟩
  · have hsame := sameUpToTies_sortRecords hperm
    simp only [survey, hrows, hrows', Except.map]
    refine .ok ⟨rfl, rfl, hsame.lastVersion_eq, ?_, hsame, hsame.sameModified scripts⟩
    simp only [statusOf, hsame.lastVersion_eq]
  · simp only [survey, hrows, hrows', Except.map]
    exact .malformed reason reason'

theorem sameStatus_refl (job : Job) (scripts : List Script) (present : Bool) :
    SameStatus scripts (job.statusOf scripts present []) (job.statusOf scripts present []) := by
  have hsame : SameUpToTies ([] : List AppliedScript) [] := ⟨.nil, .nil, .nil⟩
  exact ⟨rfl, rfl, rfl, rfl, hsame, hsame.sameModified scripts⟩

/-! ## Runs -/

variable {first second : Session σ}

/-- What is due is no reading of the ledger. -/
theorem dueSteps_ne_selectRows (job : Job) (number : Nat) (scripts : List Script) :
    ∀ step ∈ job.dueSteps number scripts,
      step.statement.withTimeout job.timeout ≠ job.ledger.selectRows.withTimeout job.timeout := by
  have hkind : ∀ statement : Statement, statement.kind = .execute →
      statement.withTimeout job.timeout ≠ job.ledger.selectRows.withTimeout job.timeout := by
    intro statement hexecute heq
    have hquery : statement.kind = .query := congrArg Statement.kind heq
    rw [hexecute] at hquery
    cases hquery
  apply forall_mem_dueSteps
  · intro script _ text _
    exact hkind _ rfl
  · intro script _ number
    apply hkind
    unfold recordStep Ledger.insertRow
    cases job.ledger.dialect <;> rfl

theorem trace_bootstrap_eq (h : first.Reorders second job.ledger job.timeout) (state : σ) :
    Task.trace second
        (job.ledger.bootstrap job.timeout job.config.replication job.config.refresh) state =
      Task.trace first
        (job.ledger.bootstrap job.timeout job.config.replication job.config.refresh) state := by
  rw [Ledger.trace_bootstrap, Ledger.trace_bootstrap,
    h.ask_eq (listTables_ne_selectRows job.ledger job.timeout)]
  congr 1
  funext answer state
  rw [h.attempt_eq (bootstrapSteps_ne_selectRows job.ledger job.timeout _ _ answer.rows)]

theorem resume_alike (h : first.Reorders second job.ledger job.timeout) (scripts : List Script)
    (action : KeyspaceAction) (state : σ) :
    (job.resume first scripts action state).Alike job.ledger Eq
      (job.resume second scripts action state) := by
  obtain ⟨hstate, hsent, ⟨rows, rows', hperm, hread, hread'⟩ | ⟨error, hread, hread'⟩⟩ :=
    h.ask_selectRows (MigrationError.ledgerRead job.ledger.qualified) state
  · have hduty := job.duty_of_perm scripts hperm
    rcases hdue : job.duty scripts rows with error | due
    · rcases hdue' : job.duty scripts rows' with error' | due'
      · rw [resume_of_duty_error first hread hdue, resume_of_duty_error second hread' hdue']
        rw [hdue, hdue'] at hduty
        refine ⟨?_, hstate, hsent⟩
        cases hduty with
        | same => exact .same error
        | malformed reason reason' => exact .malformed reason reason'
        | modified name name' => exact .modified name name'
      · rw [hdue, hdue'] at hduty
        cases hduty
    · rcases hdue' : job.duty scripts rows' with error' | due'
      · rw [hdue, hdue'] at hduty
        cases hduty
      · -- the same is due, so what follows is the same
        rw [hdue, hdue'] at hduty
        cases hduty with
        | ok hsame =>
            subst hsame
            have hattempt := h.attempt_eq (job.dueSteps_ne_selectRows 0 due.2)
            simp only [resume_of_duty first hread hdue, resume_of_duty second hread' hdue',
              ← hstate, hattempt]
            exact ⟨.refl (fun _ => rfl) _, rfl, by simp [hsent]⟩
  · rw [resume, resume, Trace.bind_of_error hread, Trace.bind_of_error hread']
    exact ⟨.same error, hstate, hsent⟩

theorem migrate_alike (h : first.Reorders second job.ledger job.timeout) (listing : Listing)
    (state : σ) :
    (Task.trace first (job.migrate listing) state).Alike job.ledger Eq
      (Task.trace second (job.migrate listing) state) := by
  rw [trace_migrate, trace_migrate]
  rcases hfound : (discover job.naming job.config.scriptDirectory listing).result with
    error | scripts
  · exact .refl (fun _ => rfl) _
  · by_cases hempty : scripts.isEmpty = true
    · simp only [hempty, if_true]
      exact .refl (fun _ => rfl) _
    · simp only [hempty, if_false, Bool.false_eq_true]
      have hroom := version_le_of_discover hfound
      rw [trace_migrateScripts first job scripts hroom, trace_migrateScripts second job scripts hroom,
        trace_bootstrap_eq h]
      exact .after _ fun action state => resume_alike h scripts action state

theorem inspectScripts_alike (h : first.Reorders second job.ledger job.timeout)
    (scripts : List Script) (state : σ) :
    (job.inspectScripts first scripts state).Alike job.ledger (SameStatus scripts)
      (job.inspectScripts second scripts state) := by
  rw [inspectScripts, inspectScripts, h.ask_eq (listTables_ne_selectRows job.ledger job.timeout)]
  apply Trace.Alike.after
  intro answer state
  by_cases hempty : answer.rows.isEmpty = true
  · simp only [hempty, if_true]
    exact ⟨.ok (job.sameStatus_refl scripts false), rfl, rfl⟩
  · simp only [hempty, if_false, Bool.false_eq_true]
    obtain ⟨hstate, hsent, ⟨rows, rows', hperm, hread, hread'⟩ | ⟨error, hread, hread'⟩⟩ :=
      h.ask_selectRows (MigrationError.ledgerRead job.ledger.qualified) state
    · rw [Trace.bind_of_ok hread, Trace.bind_of_ok hread']
      exact ⟨job.survey_of_perm scripts hperm, hstate, by simp [hsent]⟩
    · rw [Trace.bind_of_error hread, Trace.bind_of_error hread']
      exact ⟨.same error, hstate, hsent⟩

/-- The scripts that are discovered, none if that fails. -/
def scriptsIn (job : Job) (listing : Listing) : List Script :=
  match (discover job.naming job.config.scriptDirectory listing).result with
  | .ok scripts => scripts
  | .error _ => []

theorem inspect_alike (h : first.Reorders second job.ledger job.timeout) (listing : Listing)
    (state : σ) :
    (Task.trace first (job.inspect listing) state).Alike job.ledger
      (SameStatus (job.scriptsIn listing)) (Task.trace second (job.inspect listing) state) := by
  rw [trace_inspect, trace_inspect, scriptsIn]
  rcases (discover job.naming job.config.scriptDirectory listing).result with error | scripts
  · exact ⟨.same (.discovery error), rfl, rfl⟩
  · exact inspectScripts_alike h scripts state

/-- A task that is alike for both sessions stays so when these are closed. -/
theorem closingAfter_alike {α : Type} {related : α → α → Prop} (hclose : second.close = first.close)
    {task : Task MigrationError α} {l : Ledger} {state : σ}
    (h : (Task.trace first task state).Alike l related (Task.trace second task state)) :
    (Task.trace first (closingAfter task) state).Alike l related
      (Task.trace second (closingAfter task) state) := by
  rw [trace_closingAfter, trace_closingAfter, hclose, ← h.state]
  exact ⟨h.result.closed _, rfl, h.statements⟩

/-- The order in which a database returns the rows of the ledger does not matter. Whatever is in
their cells, rows in two orders are read alike. With two sessions that differ in this order only, a
run sends the same statements and leaves the same state behind, and both runs end alike, those that
succeed with the same report; and so does a status, but for the order of records of one version. -/
theorem row_order_irrelevant (job : Job) :
    (∀ rows rows' : List Row, rows.Perm rows' →
      ∀ {σ τ : Type} (first : Session σ) (second : Session τ) (state : σ) (state' : τ),
        let read := job.ledger.selectRows.withTimeout job.timeout
        (first.send state read).1.rows? job.timeout = some rows →
        (second.send state' read).1.rows? job.timeout = some rows' →
        Ledger.ReadAlike rows
          (Task.trace first (job.ledger.readRecords job.timeout) state).result
          (Task.trace second (job.ledger.readRecords job.timeout) state').result) ∧
    ∀ {σ : Type} (first second : Session σ) (listing : Listing) (state : σ),
      first.Reorders second job.ledger job.timeout →
      (Task.trace first (job.run listing) state).Alike job.ledger Eq
          (Task.trace second (job.run listing) state) ∧
        (Task.trace first (job.status listing) state).Alike job.ledger
          (SameStatus (job.scriptsIn listing)) (Task.trace second (job.status listing) state) := by
  constructor
  · intro rows rows' hperm σ τ first second state state' read hrows hrows'
    rw [Ledger.result_readRecords hrows, Ledger.result_readRecords hrows']
    exact Ledger.readAlike_of_perm job.ledger hperm
  · intro σ first second listing state h
    exact ⟨closingAfter_alike h.close (migrate_alike h listing state),
      closingAfter_alike h.close (inspect_alike h listing state)⟩

end Job

namespace Sample

/-- A session that answers with some rows when the ledger is read, and else with its name. -/
def answering (rows : List Row) : Session Unit where
  backend := "rows"
  dialect := .cql
  send _ statement :=
    let rows := if statement = job.ledger.selectRows.withTimeout job.timeout then rows
      else [[.text job.ledger.table.text]]
    (⟨0, .ok (.ofRows rows)⟩, ())
  cancel := id
  close _ := (none, ())

theorem answering_reorders {rows rows' : List Row} (h : rows.Perm rows') :
    (answering rows).Reorders (answering rows') job.ledger job.timeout where
  others := by
    intro state statement hother
    simp [answering, hother]
  reading := by
    intro state
    refine ⟨rfl, ?_⟩
    simp only [answering, if_true]
    exact .rows 0 h
  cancel := rfl
  close := rfl

end Sample

/-- Three rows, two of them of one version, and the same rows from the last to the first. -/
theorem Job.row_order_irrelevant_sample :
    let rows : List Row := [[.int 2, .text "V002__b.cql"], [.int 1, .text "V001__a.cql"],
      [.int 2, .text "V002__c.cql"]]
    let first := Sample.answering rows
    let second := Sample.answering rows.reverse
    let job := Sample.job
    Ledger.ReadAlike rows (Task.trace first (job.ledger.readRecords job.timeout) ()).result
        (Task.trace second (job.ledger.readRecords job.timeout) ()).result ∧
      (Task.trace first (job.run Sample.listing) ()).Alike job.ledger Eq
        (Task.trace second (job.run Sample.listing) ()) ∧
      (Task.trace first (job.status Sample.listing) ()).Alike job.ledger
        (SameStatus (job.scriptsIn Sample.listing))
        (Task.trace second (job.status Sample.listing) ()) := by
  intro rows first second job
  have hperm : rows.Perm rows.reverse := (List.reverse_perm rows).symm
  have hreorders : first.Reorders second job.ledger job.timeout :=
    Sample.answering_reorders hperm
  have hboth := Job.row_order_irrelevant job
  exact ⟨hboth.1 rows rows.reverse hperm first second () () (by decide) (by decide),
    hboth.2 first second Sample.listing () hreorders⟩

end SchemaMigration
