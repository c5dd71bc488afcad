import SchemaMigration.Proofs.Migration.Agenda

/-!
# What an error of a run says

The error of a run names the first thing that went wrong, with what it went wrong with. What can go
wrong is the discovery of the scripts, a statement of the agenda, what has been read from the
ledger, and the end of the session, in this order.

* `Job.Blames` says what an error stands for, error by error.
* `Job.Went` has the ways in which a run goes before its session is closed.
* `Job.run_blames`: a run ends with an error if and only if what the error stands for has happened.
-/

namespace SchemaMigration

variable {σ : Type}

/-! ## Rows and records -/

/-- The record has a checksum, and the script of its name has another one. -/
def AppliedScript.Changed (scripts : List Script) (record : AppliedScript) : Prop :=
  ∃ expected ∈ record.checksum, ∃ script ∈ scripts.find? fun s => s.name == record.name,
    script.checksum ≠ expected

instance (scripts : List Script) : DecidablePred (AppliedScript.Changed scripts) := fun record =>
  inferInstanceAs (Decidable (∃ expected ∈ record.checksum,
    ∃ script ∈ scripts.find? fun s => s.name == record.name, script.checksum ≠ expected))

theorem modifiedNames_cons (scripts : List Script) (record : AppliedScript)
    (records : List AppliedScript) :
    modifiedNames scripts (record :: records) =
      if record.Changed scripts then record.name :: modifiedNames scripts records
      else modifiedNames scripts records := by
  unfold modifiedNames modifiedRecords
  rcases hchecksum : record.checksum with _ | expected
  · have hnot : ¬ record.Changed scripts := by simp [AppliedScript.Changed, hchecksum]
    simp [hchecksum, hnot]
  · rcases hscript : scripts.find? (fun s => s.name == record.name) with _ | script
    · have hnot : ¬ record.Changed scripts := by simp [AppliedScript.Changed, hscript]
      simp [hchecksum, hscript, hnot]
    · have hname : script.name = record.name := by simpa using List.find?_some hscript
      have hchanged : record.Changed scripts ↔ script.checksum ≠ expected := by
        simp [AppliedScript.Changed, hchecksum, hscript]
      by_cases hsame : script.checksum = expected <;>
        simp [hchecksum, hscript, hchanged, hsame, hname]

/-- The names that are reported are those of the records whose scripts have changed. -/
theorem modifiedNames_eq (scripts : List Script) (records : List AppliedScript) :
    modifiedNames scripts records =
      (records.filter fun record => record.Changed scripts).map (·.name) := by
  induction records with
  | nil => rfl
  | cons record records ih =>
      rw [modifiedNames_cons, List.filter_cons]
      by_cases hchanged : record.Changed scripts <;> simp [hchanged, ih]

/-- The first name that is reported is that of the first record whose script has changed. -/
theorem head?_modifiedNames (scripts : List Script) (records : List AppliedScript) :
    (modifiedNames scripts records).head? =
      (records.find? fun record => record.Changed scripts).map (·.name) := by
  rw [modifiedNames_eq, List.head?_map, List.head?_filter]

namespace Ledger

/-- Some row does not decode, and this is the error of the first one. -/
def Malformed (l : Ledger) (rows : List Row) (error : MigrationError) : Prop :=
  ∃ front row back, rows = front ++ row :: back ∧
    (∀ earlier ∈ front, ∃ record, l.decodeRow earlier = .ok record) ∧
    l.decodeRow row = .error error

theorem decodeRows_eq_error_iff {l : Ledger} {rows : List Row} {error : MigrationError} :
    l.decodeRows rows = .error error ↔ l.Malformed rows error := by
  induction rows with
  | nil => simp [decodeRows, Malformed]
  | cons row rows ih =>
      simp only [decodeRows, bind, Except.bind]
      rcases hrow : l.decodeRow row with first | record
      · -- nothing decodes in front of the first row
        constructor
        · intro h
          exact ⟨[], row, rows, rfl, by simp, hrow.trans (by simpa using h)⟩
        · rintro ⟨front, other, back, hrows, hfront, hother⟩
          cases front with
          | nil =>
              obtain ⟨rfl, rfl⟩ := List.cons.inj hrows
              simpa [hrow] using hother
          | cons earlier front =>
              obtain ⟨rfl, -⟩ := List.cons.inj hrows
              obtain ⟨record, hrecord⟩ := hfront row List.mem_cons_self
              cases hrow.symm.trans hrecord
      · have hrest : l.decodeRows rows = .error error ↔ l.Malformed (row :: rows) error := by
          rw [ih]
          constructor
          · rintro ⟨front, other, back, rfl, hfront, hother⟩
            exact ⟨row :: front, other, back, rfl,
              List.forall_mem_cons.mpr ⟨⟨record, hrow⟩, hfront⟩, hother⟩
          · rintro ⟨front, other, back, hrows, hfront, hother⟩
            cases front with
            | nil =>
                obtain ⟨rfl, rfl⟩ := List.cons.inj hrows
                cases hrow.symm.trans hother
            | cons earlier front =>
                obtain ⟨rfl, rfl⟩ := List.cons.inj hrows
                exact ⟨front, other, back, rfl, (List.forall_mem_cons.mp hfront).2, hother⟩
        rw [← hrest]
        rcases l.decodeRows rows with first | records <;> simp

end Ledger

namespace Job

variable {job : Job} {scripts : List Script} {rows : List Row}

/-- The first changed script, in the order of the versions, keeps a run from going on. -/
theorem duty_of_decoded {records : List AppliedScript}
    (h : job.ledger.decodeRows rows = .ok records) :
    job.duty scripts rows =
      match (Ledger.sortRecords records).find? fun record => record.Changed scripts with
      | some record => .error (.modified record.name job.ledger.qualified)
      | none => .ok (newestVersion records, pending scripts (newestVersion records)) := by
  have hhead := head?_modifiedNames scripts (Ledger.sortRecords records)
  simp only [duty, h]
  rcases hnames : modifiedNames scripts (Ledger.sortRecords records) with _ | ⟨first, names⟩
  · rw [hnames, List.head?_nil, eq_comm, Option.map_eq_none_iff] at hhead
    rw [hhead]
  · rw [hnames, List.head?_cons, eq_comm, Option.map_eq_some_iff] at hhead
    obtain ⟨record, hrecord, rfl⟩ := hhead
    rw [hrecord]

theorem duty_of_malformed {error : MigrationError}
    (h : job.ledger.decodeRows rows = .error error) : job.duty scripts rows = .error error := by
  simp only [duty, h]

/-- The rows decode, and this is the name of the first changed script, in the order of the
versions. -/
def FirstChanged (job : Job) (scripts : List Script) (rows : List Row) (name : String) : Prop :=
  ∃ records, job.ledger.decodeRows rows = .ok records ∧ ∃ record ∈
    (Ledger.sortRecords records).find? fun record => record.Changed scripts, record.name = name

/-- The rows decode, and no script has changed since it was recorded. -/
def Sound (job : Job) (scripts : List Script) (rows : List Row) : Prop :=
  ∃ records, job.ledger.decodeRows rows = .ok records ∧
    ∀ record ∈ records, ¬ record.Changed scripts

theorem duty_eq_ledgerRow_iff {table reason : String} :
    job.duty scripts rows = .error (.ledgerRow table reason) ↔
      job.ledger.Malformed rows (.ledgerRow table reason) := by
  rw [← Ledger.decodeRows_eq_error_iff]
  rcases hrows : job.ledger.decodeRows rows with error | records
  · simp [duty_of_malformed hrows]
  · rw [duty_of_decoded hrows]
    split <;> simp

theorem duty_eq_modified_iff {name table : String} :
    job.duty scripts rows = .error (.modified name table) ↔
      table = job.ledger.qualified ∧ job.FirstChanged scripts rows name := by
  rcases hrows : job.ledger.decodeRows rows with error | records
  · obtain ⟨reason, rfl⟩ := Ledger.error_of_decodeRows hrows
    simp [duty_of_malformed hrows, FirstChanged, hrows]
  · rw [duty_of_decoded hrows]
    rcases hchanged : (Ledger.sortRecords records).find? (fun record => record.Changed scripts) with
      _ | record
    · simp [FirstChanged, hrows, hchanged]
    · simp [FirstChanged, hrows, hchanged, eq_comm, and_comm]

theorem duty_eq_ok_iff :
    (∃ due, job.duty scripts rows = .ok due) ↔ job.Sound scripts rows := by
  rcases hrows : job.ledger.decodeRows rows with error | records
  · simp [duty_of_malformed hrows, Sound, hrows]
  · have hmem : ∀ record, record ∈ Ledger.sortRecords records ↔ record ∈ records :=
      fun record => (Ledger.sortRecords_perm records).mem_iff
    rcases hchanged : (Ledger.sortRecords records).find? (fun record => record.Changed scripts) with
      _ | record
    · have hnone := List.find?_eq_none.mp hchanged
      simpa [duty_of_decoded hrows, hchanged, Sound, hrows, hmem] using hnone
    · have hfound := (hmem record).mp (List.mem_of_find?_eq_some hchanged)
      have hdiffers : record.Changed scripts := by simpa using List.find?_some hchanged
      simpa [duty_of_decoded hrows, hchanged, Sound, hrows] using
        Exists.intro record (And.intro hfound hdiffers)

theorem error_of_duty {error : MigrationError} (h : job.duty scripts rows = .error error) :
    (∃ table reason, error = .ledgerRow table reason) ∨
      ∃ name table, error = .modified name table := by
  rcases hrows : job.ledger.decodeRows rows with first | records
  · obtain ⟨reason, rfl⟩ := Ledger.error_of_decodeRows hrows
    rw [duty_of_malformed hrows] at h
    exact .inl ⟨_, reason, (Except.error.inj h).symm⟩
  · rw [duty_of_decoded hrows] at h
    split at h
    · exact .inr ⟨_, _, (Except.error.inj h).symm⟩
    · cases h

/-! ## How a run goes -/

/-- The rows that a run has read from the ledger, if it has. -/
def rowsRead (job : Job) (sent : List (Exchange σ)) : Option (List Row) :=
  (sent.find? fun e => e.statement = job.ledger.selectRows.withTimeout job.timeout).bind
    fun e => e.reply.rows? job.timeout

theorem answered_selectRows (job : Job) (sent : List (Exchange σ)) :
    answered job.timeout job.ledger.selectRows sent = (job.rowsRead sent).getD [] := by
  unfold answered rowsRead
  split <;> simp [*]

/-- The ways in which a run goes before its session is closed: what was sent, and how it ended. -/
inductive Went (job : Job) (listing : Listing) (sent : List (Exchange σ)) :
    Except MigrationError Report → Prop
  /-- Discovery fails. -/
  | undiscovered {error : DiscoveryError}
      (hfound : (discover job.naming job.config.scriptDirectory listing).result = .error error)
      (hsent : sent = []) : Went job listing sent (.error (.discovery error))
  /-- There are no scripts. -/
  | idle (hfound : (discover job.naming job.config.scriptDirectory listing).result = .ok [])
      (hsent : sent = []) : Went job listing sent (.ok .nothingFound)
  /-- A statement fails. If the ledger has been read by then, nothing was wrong with it. -/
  | failed {scripts : List Script} {purpose : Purpose} {error : SessionError}
      (hfound : (discover job.naming job.config.scriptDirectory listing).result = .ok scripts)
      (hfailure : firstFailure job.timeout (job.agendaOf listing sent) sent = some (purpose, error))
      (hrows : ∀ rows, job.rowsRead sent = some rows → job.Sound scripts rows) :
      Went job listing sent (.error (purpose.blame job.ledger error))
  /-- All statements succeed, and what has been read decides. -/
  | decided {scripts : List Script} {rows : List Row} {action : KeyspaceAction}
      (hfound : (discover job.naming job.config.scriptDirectory listing).result = .ok scripts)
      (hsucceeded : ∀ e ∈ sent, e.Succeeded job.timeout)
      (hrows : job.rowsRead sent = some rows) :
      Went job listing sent ((job.duty scripts rows).map (job.reportOf scripts action))

/-- What is read is the reply to a statement that was sent, and a success. -/
theorem exists_of_rowsRead {sent : List (Exchange σ)} {rows : List Row}
    (h : job.rowsRead sent = some rows) : ∃ e ∈ sent,
      e.statement = job.ledger.selectRows.withTimeout job.timeout ∧ e.Succeeded job.timeout := by
  unfold rowsRead at h
  obtain ⟨e, hfound, hrows⟩ := Option.bind_eq_some_iff.mp h
  exact ⟨e, List.mem_of_find?_eq_some hfound, by simpa using List.find?_some hfound,
    Exchange.succeeded_iff.mpr ⟨rows, hrows⟩⟩

/-- The ledger has been read if its statement was sent and nothing has failed. -/
theorem rowsRead_of_succeeded {sent : List (Exchange σ)}
    (hsent : job.ledger.selectRows.withTimeout job.timeout ∈ sent.map (·.statement))
    (hsucceeded : ∀ e ∈ sent, e.Succeeded job.timeout) : ∃ rows, job.rowsRead sent = some rows := by
  obtain ⟨f, hf, hstatement⟩ := List.mem_map.mp hsent
  unfold rowsRead
  rcases hfound : sent.find? (fun e => e.statement = job.ledger.selectRows.withTimeout job.timeout)
    with _ | e
  · exact absurd hstatement (by simpa using List.find?_eq_none.mp hfound f hf)
  · simpa [hfound] using
      Exchange.succeeded_iff.mp (hsucceeded e (List.mem_of_find?_eq_some hfound))

theorem openingSteps_ne_selectRows {tables : List Row} {step : Step}
    (h : step ∈ job.openingSteps tables) :
    step.statement.withTimeout job.timeout ≠ job.ledger.selectRows.withTimeout job.timeout := by
  rcases List.mem_cons.mp h with rfl | h
  · exact listTables_ne_selectRows job.ledger job.timeout
  · exact bootstrapSteps_ne_selectRows job.ledger job.timeout _ _ tables step h

/-- With nothing due, a run that fails has not read the ledger. -/
theorem rowsRead_of_nothing_due (session : Session σ) {tables : List Row} {state : σ}
    {error : MigrationError}
    (h : (session.attempt job.timeout (job.openingSteps tables ++ [job.readStep]) state).result =
      .error error) :
    job.rowsRead (session.attempt job.timeout (job.openingSteps tables ++ [job.readStep])
      state).sent = none := by
  rw [← Option.not_isSome_iff_eq_none, Option.isSome_iff_exists]
  rintro ⟨rows, hrows⟩
  obtain ⟨f, hf, hread, hsucceeded⟩ := exists_of_rowsRead hrows
  rcases session.attempt_cases job.timeout (job.openingSteps tables ++ [job.readStep]) state with
    ⟨hok, -⟩ | ⟨before, step, after, succeeded, e, hsteps, hsent, hbefore, -, -, hnot, -⟩
  · cases hok.symm.trans h
  · -- what has succeeded are steps in front of the last one, which reads the ledger
    rw [hsent, List.mem_append, List.mem_singleton] at hf
    rcases hf with hf | rfl
    · have hmem := List.mem_map_of_mem (f := (·.statement)) hf
      rw [hbefore] at hmem
      obtain ⟨other, hother, hstatement⟩ := List.mem_map.mp hmem
      have hopening : other ∈ job.openingSteps tables := by
        rcases append_eq_append_cons hsteps with ⟨middle, hfront, hback⟩ | ⟨middle, hfront⟩
        · cases middle with
          | nil => simpa [hfront] using hother
          | cons first middle => simp at hback
        · simp [hfront, hother]
      exact openingSteps_ne_selectRows hopening (hstatement.trans hread)
    · exact hnot hsucceeded

/-- The run over some scripts fails with a statement, or ends with what the ledger decides. -/
theorem migrateScripts_went (session : Session σ) (job : Job) {listing : Listing}
    {scripts : List Script}
    (hfound : (discover job.naming job.config.scriptDirectory listing).result = .ok scripts)
    (hne : scripts ≠ []) (state : σ) :
    let t := Task.trace session (job.migrateScripts scripts) state
    job.Went listing t.sent t.result := by
  intro t
  let tables := answered job.timeout job.ledger.listTables t.sent
  let rows := answered job.timeout job.ledger.selectRows t.sent
  let attempt := session.attempt job.timeout (job.steps scripts tables rows) state
  have ht : t = ⟨attempt.result.bind fun _ => (job.duty scripts rows).map
      (job.reportOf scripts (Ledger.actionOn job.config.refresh tables)),
      attempt.state, attempt.sent⟩ :=
    job.trace_migrateScripts_eq_attempt session (version_le_of_discover hfound) state
  have hsent : attempt.sent = t.sent := (congrArg Trace.sent ht).symm
  have hagenda : (job.agendaOf listing t.sent).map (Item.step job.ledger) =
      job.steps scripts tables rows := by
    rw [agendaOf_of_found hfound hne]
    exact map_agenda scripts tables rows
  have hattempt := session.attempt_agenda job.ledger job.timeout (job.agendaOf listing t.sent) state
  simp only [hagenda] at hattempt
  rw [show (session.attempt job.timeout (job.steps scripts tables rows) state).sent = t.sent
    from hsent] at hattempt
  rcases hfailure : firstFailure job.timeout (job.agendaOf listing t.sent) t.sent with
    _ | ⟨purpose, error⟩
  · -- the ledger has been read, so its rows decide
    simp only [hfailure] at hattempt
    have hsucceeded := (Trace.Strict.attempt session job.timeout _ state) () hattempt
    have hall := (session.attempt_attempts job.timeout
      (job.steps scripts tables rows) state).failFast.completes hsucceeded
    have hread : ∃ read, job.rowsRead t.sent = some read := by
      rw [← hsent]
      apply rowsRead_of_succeeded _ hsucceeded
      rw [hall]
      exact List.mem_map.mpr ⟨job.readStep, by simp [steps], rfl⟩
    obtain ⟨read, hread⟩ := hread
    have hrows : rows = read := by simp only [rows, answered_selectRows, hread, Option.getD_some]
    have hresult : t.result = _ := congrArg Trace.result ht
    rw [hattempt, hrows] at hresult
    rw [hsent] at hsucceeded
    rw [hresult]
    exact .decided hfound hsucceeded hread
  · simp only [hfailure] at hattempt
    have hresult : t.result = _ := congrArg Trace.result ht
    rw [hattempt] at hresult
    rw [hresult]
    apply Went.failed hfound hfailure
    intro read hread
    have hrows : rows = read := by simp only [rows, answered_selectRows, hread, Option.getD_some]
    rw [← duty_eq_ok_iff, ← hrows]
    rcases hduty : job.duty scripts rows with reason | due
    · -- with nothing due, the ledger has not been read
      have hsteps : job.steps scripts tables rows = job.openingSteps tables ++ [job.readStep] := by
        simp [steps, dueScripts_of_duty_error hduty, dueSteps]
      have hnone : job.rowsRead attempt.sent = none := by
        simp only [attempt, hsteps] at hattempt ⊢
        exact rowsRead_of_nothing_due session hattempt
      rw [hsent, hread] at hnone
      cases hnone
    · exact ⟨due, rfl⟩

/-- Every run goes one of these ways. -/
theorem migrate_went (session : Session σ) (job : Job) (listing : Listing) (state : σ) :
    let t := Task.trace session (job.migrate listing) state
    job.Went listing t.sent t.result := by
  intro t
  have ht : t = _ := trace_migrate session job listing state
  rcases hfound : (discover job.naming job.config.scriptDirectory listing).result with
    error | scripts
  · simp only [hfound] at ht
    rw [ht]
    exact .undiscovered hfound rfl
  · cases scripts with
    | nil =>
        simp only [hfound, List.isEmpty_nil, if_true] at ht
        rw [ht]
        exact .idle hfound rfl
    | cons script scripts =>
        simp only [hfound, List.isEmpty_cons, Bool.false_eq_true, if_false] at ht
        rw [ht]
        exact job.migrateScripts_went session hfound (List.cons_ne_nil _ _) state

/-! ## What an error stands for -/

/-- All has gone well: the scripts were found, every statement has succeeded, and nothing was wrong
with the ledger where it was read. -/
def WentWell (job : Job) (listing : Listing) (sent : List (Exchange σ)) : Prop :=
  ∃ scripts, (discover job.naming job.config.scriptDirectory listing).result = .ok scripts ∧
    (∀ e ∈ sent, e.Succeeded job.timeout) ∧
    ∀ rows, job.rowsRead sent = some rows → job.Sound scripts rows

/-- What an error of a run stands for, where some statements were sent and closing the session has
ended in some way. -/
def Blames (job : Job) (listing : Listing) (sent : List (Exchange σ))
    (closing : Option SessionError) : MigrationError → Prop
  | .connection _ => False
  | .discovery error =>
    (discover job.naming job.config.scriptDirectory listing).result = .error error
  | .bootstrap keyspace error => keyspace = job.ledger.keyspace.text ∧
    firstFailure job.timeout (job.agendaOf listing sent) sent = some (.bootstrap, error)
  | .ledgerRead table error => table = job.ledger.qualified ∧
    firstFailure job.timeout (job.agendaOf listing sent) sent = some (.reading, error)
  | .script name error =>
    firstFailure job.timeout (job.agendaOf listing sent) sent = some (.script name, error)
  | .ledgerWrite name table reason => table = job.ledger.qualified ∧ ∃ error : SessionError,
    firstFailure job.timeout (job.agendaOf listing sent) sent = some (.record name, error) ∧
      reason = error.message
  | .ledgerRow table reason => ∃ rows, job.rowsRead sent = some rows ∧
    job.ledger.Malformed rows (.ledgerRow table reason)
  | .modified name table => table = job.ledger.qualified ∧ ∃ scripts rows,
    (discover job.naming job.config.scriptDirectory listing).result = .ok scripts ∧
      job.rowsRead sent = some rows ∧ job.FirstChanged scripts rows name
  | .close error => closing = some error ∧ job.WentWell listing sent

variable {listing : Listing} {sent : List (Exchange σ)} {result : Except MigrationError Report}

/-- Before the session is closed, a run ends with an error if and only if what it stands for has
happened. -/
theorem Went.blames (h : job.Went listing sent result) {error : MigrationError}
    (hother : ∀ reason, error ≠ .close reason) (closing : Option SessionError) :
    result = .error error ↔ job.Blames listing sent closing error := by
  cases h with
  | undiscovered hfound hsent =>
      cases error with
      | close reason => exact absurd rfl (hother reason)
      | _ => simp [Blames, rowsRead, hfound, hsent]
  | idle hfound hsent =>
      cases error with
      | close reason => exact absurd rfl (hother reason)
      | _ => simp [Blames, rowsRead, hfound, hsent]
  | @failed scripts purpose first hfound hfailure hrows =>
      -- what has been read has allowed the run to go on
      have hrow : ∀ rows, job.rowsRead sent = some rows → ∀ table reason,
          ¬ job.ledger.Malformed rows (.ledgerRow table reason) := by
        intro rows hread table reason hmalformed
        obtain ⟨due, hdue⟩ := duty_eq_ok_iff.mpr (hrows rows hread)
        cases hdue.symm.trans (duty_eq_ledgerRow_iff.mpr hmalformed)
      have hchanged : ∀ rows, job.rowsRead sent = some rows → ∀ name,
          ¬ job.FirstChanged scripts rows name := by
        intro rows hread name hfirst
        obtain ⟨due, hdue⟩ := duty_eq_ok_iff.mpr (hrows rows hread)
        cases hdue.symm.trans (duty_eq_modified_iff.mpr ⟨rfl, hfirst⟩)
      cases error with
      | close reason => exact absurd rfl (hother reason)
      | ledgerRow table reason =>
          cases purpose <;> simpa [Blames, Purpose.blame] using fun rows hread =>
            hrow rows hread table reason
      | modified name table =>
          cases purpose <;> simpa [Blames, Purpose.blame, hfound] using fun _ rows hread =>
            hchanged rows hread name
      | _ => cases purpose <;> simp [Blames, Purpose.blame, hfound, hfailure, eq_comm, and_comm,
          and_left_comm]
  | @decided scripts rows action hfound hsucceeded hrows =>
      have hnone : firstFailure job.timeout (job.agendaOf listing sent) sent = none :=
        firstFailure_of_succeeded hsucceeded _
      have hduty : ((job.duty scripts rows).map (job.reportOf scripts action)) = .error error ↔
          job.duty scripts rows = .error error := by
        rcases job.duty scripts rows with first | due <;> simp [Except.map]
      rw [hduty]
      cases error with
      | close reason => exact absurd rfl (hother reason)
      | ledgerRow table reason => simp [Blames, hrows, duty_eq_ledgerRow_iff]
      | modified name table => simp [Blames, hfound, hrows, duty_eq_modified_iff]
      | _ =>
          refine ⟨fun h => ?_, by simp [Blames, hfound, hnone]⟩
          -- what has been read leads to errors of two kinds only
          rcases error_of_duty h with ⟨_, _, h⟩ | ⟨_, _, h⟩ <;> cases h

/-- Nothing but the end of the session is reported as its failure. -/
theorem Went.ne_close (h : job.Went listing sent result) (reason : SessionError) :
    result ≠ .error (.close reason) := by
  cases h with
  | undiscovered => simp
  | idle => simp
  | @failed _ purpose => cases purpose <;> simp [Purpose.blame]
  | @decided scripts rows =>
      intro h
      rcases hduty : job.duty scripts rows with error | due
      · rcases error_of_duty hduty with ⟨_, _, rfl⟩ | ⟨_, _, rfl⟩ <;> simp [hduty, Except.map] at h
      · simp [hduty, Except.map] at h

/-- A statement that fails behind nothing but successes is what the error of a run is about. -/
theorem Went.result_of_failure {before : List (Exchange σ)} {e : Exchange σ} {item : Item}
    (h : job.Went listing (before ++ [e]) result)
    (hbefore : ∀ f ∈ before, f.Succeeded job.timeout) (he : ¬ e.Succeeded job.timeout)
    (hitem : (job.agendaOf listing (before ++ [e]))[before.length]? = some item) :
    result =
      .error (item.purpose.blame job.ledger (e.reply.fault job.timeout item.statement)) := by
  cases h with
  | undiscovered hfound hsent => simp at hsent
  | idle hfound hsent => simp at hsent
  | failed hfound hfailure hrows =>
      obtain ⟨rfl, rfl⟩ := Prod.mk.inj (Option.some.inj
        (hfailure.symm.trans (firstFailure_append_single hbefore he hitem)))
      rfl
  | decided hfound hsucceeded hrows =>
      exact absurd (hsucceeded e (List.mem_append_right _ List.mem_cons_self)) he

/-- Before the session is closed, a run succeeds if and only if all has gone well. -/
theorem Went.wentWell_iff (h : job.Went listing sent result) :
    (∃ report, result = .ok report) ↔ job.WentWell listing sent := by
  cases h with
  | undiscovered hfound hsent => simp [WentWell, hfound]
  | idle hfound hsent => simp [WentWell, hfound, hsent, rowsRead]
  | @failed scripts purpose error hfound hfailure hrows =>
      obtain ⟨e, he, hnot⟩ := exists_of_firstFailure hfailure
      constructor
      · rintro ⟨report, hreport⟩
        cases hreport
      · rintro ⟨_, -, hsucceeded, -⟩
        exact absurd (hsucceeded e he) hnot
  | @decided scripts rows action hfound hsucceeded hrows =>
      have hduty : (∃ report, (job.duty scripts rows).map (job.reportOf scripts action) =
          .ok report) ↔ ∃ due, job.duty scripts rows = .ok due := by
        rcases job.duty scripts rows with first | due <;> simp [Except.map]
      rw [hduty, duty_eq_ok_iff]
      constructor
      · intro hsound
        refine ⟨scripts, hfound, hsucceeded, fun read hread => ?_⟩
        rwa [← Option.some.inj (hrows.symm.trans hread)]
      · rintro ⟨found, hsame, -, hsound⟩
        rw [Except.ok.inj (hfound.symm.trans hsame)]
        exact hsound rows hrows

theorem closed_eq_close {α : Type} {result : Except MigrationError α}
    {closing : Option SessionError} {reason : SessionError}
    (h : result ≠ .error (.close reason)) :
    closed result closing = .error (.close reason) ↔
      closing = some reason ∧ ∃ value, result = .ok value := by
  cases result <;> cases closing <;> simp_all [closed]

/-- **What an error of a run says.** With any session, whatever it answers and however long it
takes, what is sent are the first statements of the agenda. The run ends with an error if and only
if what the error stands for has happened, and without one if and only if all has gone well and the
session could be closed. An error of the run before that is not replaced. -/
theorem run_blames (session : Session σ) (job : Job) (listing : Listing) (state : σ) :
    let sent := Dialogue.exchanges session (job.run listing).run state
    let result := (Dialogue.play session (job.run listing).run state).result
    let before := Dialogue.play session (job.migrate listing).run state
    let closing := (session.close before.state).1
    sent.map (·.statement) <+:
        (job.agendaOf listing sent).map (·.statement.withTimeout job.timeout) ∧
      (∀ error, result = .error error ↔ job.Blames listing sent closing error) ∧
      ((∃ report, result = .ok report) ↔ job.WentWell listing sent ∧ closing = none) ∧
      ∀ error, before.result = .error error → result = .error error := by
  intro sent result before closing
  have hrun : Task.trace session (job.run listing) state = _ :=
    trace_closingAfter session (job.migrate listing) state
  have hresult : result = closed before.result closing := congrArg Trace.result hrun
  have hsent : sent = (Task.trace session (job.migrate listing) state).sent :=
    congrArg Trace.sent hrun
  have hwent : job.Went listing sent before.result :=
    hsent ▸ migrate_went session job listing state
  refine ⟨?_, ?_, ?_, ?_⟩
  · rw [hsent]
    exact (migrate_failFast_agenda session job listing state).follows
  · intro error
    rw [hresult]
    -- only the end of the session fails as such, and only where nothing else has
    by_cases hclose : ∃ reason, error = .close reason
    · obtain ⟨reason, rfl⟩ := hclose
      rw [closed_eq_close (hwent.ne_close reason), hwent.wentWell_iff]
      rfl
    · have hother : ∀ reason, error ≠ .close reason := by simpa using hclose
      rw [closed_eq_error hother]
      exact hwent.blames hother closing
  · rw [← hwent.wentWell_iff, hresult]
    constructor
    · rintro ⟨report, hreport⟩
      exact ⟨⟨report, closed_eq_ok hreport⟩, close_of_closed_eq_ok hreport⟩
    · rintro ⟨⟨report, hreport⟩, hclosing⟩
      exact ⟨report, by rw [hclosing, hreport]; rfl⟩
  · intro error herror
    rw [hresult, herror, closed_error]

end Job

end SchemaMigration
