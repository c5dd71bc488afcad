import SchemaMigration.Proofs.Migration.Run

/-!
# Runs one after the other

Runs for one ledger, each on the store that the one before has left. A run either drops the ledger
and starts it anew, or it goes on with the rows that are there. In both cases it adds rows of its
own scripts at the end, and takes none away.

* `Run.History`: the runs since a store, and the store they have led to.
* `Run.growth`: the rows at every moment of a run that does not drop the keyspace.
* `Run.rows_of_drops`: the rows after a run that does.
-/

namespace SchemaMigration

namespace Job

/-- The same job, apart from the ids for the rows of the ledger. -/
def Alike (first second : Job) : Prop :=
  first = { second with rowId := first.rowId }

namespace Alike

variable {first second : Job}

theorem config (h : first.Alike second) : first.config = second.config := by
  rw [h]

theorem naming (h : first.Alike second) : first.naming = second.naming := by
  rw [h]

theorem timeout (h : first.Alike second) : first.timeout = second.timeout := by
  rw [h]

theorem ledger (h : first.Alike second) : first.ledger = second.ledger := by
  rw [h]
  rfl

end Alike

end Job

namespace Run

variable {fate : FailedWrite}

/-- A run for the keyspace and the table of a ledger. -/
structure For (r : Run fate) (l : Ledger) : Prop where
  keyspace : r.job.ledger.keyspace = l.keyspace
  table : r.job.ledger.table = l.table

/-- The run has found scripts, so it goes on to the bootstrap. -/
def Begins (r : Run fate) : Prop :=
  ∃ scripts, r.discovered = .ok scripts ∧ scripts ≠ []

/-- The runs for a ledger since a store, latest first, and the store they have led to. -/
inductive History (l : Ledger) (start : Store) : List (Run fate) → Store → Prop where
  | none : History l start [] start
  | run {runs : List (Run fate)} (r : Run fate) (hfor : r.For l)
      (before : History l start runs r.before) : History l start (r :: runs) r.after

namespace For

variable {r : Run fate} {l : Ledger}

theorem tables?_eq (h : r.For l) (s : Store) : r.job.ledger.tables? s = l.tables? s := by
  unfold Ledger.tables?
  rw [h.keyspace]

theorem present_iff (h : r.For l) (s : Store) : r.job.ledger.Present s ↔ l.Present s := by
  unfold Ledger.Present Ledger.stored?
  rw [h.keyspace, h.table]

theorem standing_iff (h : r.For l) (s : Store) : r.job.ledger.Standing s ↔ l.Standing s := by
  unfold Ledger.Standing
  rw [h.tables?_eq, h.present_iff]

end For

variable {r : Run fate} {l : Ledger}

theorem For.storedRows_eq (h : r.For l) (s : Store) :
    r.job.ledger.storedRows s = l.storedRows s := by
  unfold Ledger.storedRows Ledger.stored?
  rw [h.keyspace, h.table]

/-! ## The rows during a run -/

/-- The scripts that the run has found; none if it could not look. -/
def found (r : Run fate) : List Script :=
  r.discovered.toOption.getD []

/-- The stores that the run goes through: before it, right after each statement, and at the end. -/
def moments (r : Run fate) : List Store :=
  r.before :: r.trace.sent.map (fun e => r.view e.after) ++ [r.after]

/-- The run has dropped the keyspace with everything in it. -/
def Drops (r : Run fate) : Prop :=
  r.Begins ∧ r.job.ledger.Dropped r.job.timeout r.bootstrap.sent

theorem found_of_ok {scripts : List Script} (h : r.discovered = .ok scripts) :
    r.found = scripts := by
  simp [found, h, Except.toOption]

theorem discovered_of_mem_found {script : Script} (h : script ∈ r.found) :
    r.discovered = .ok r.found := by
  unfold found at h ⊢
  rcases hdiscovered : r.discovered with error | scripts
  · simp [hdiscovered, Except.toOption] at h
  · simp [Except.toOption]

/-- A run that finds no scripts sends nothing. -/
theorem idle_of_not_begins (h : ¬ r.Begins) : r.trace.sent = [] ∧ r.after = r.before := by
  have hnone : ∀ scripts, r.discovered = .ok scripts → scripts = [] := by
    intro scripts hscripts
    by_contra hne
    exact h ⟨scripts, hscripts, hne⟩
  obtain ⟨result, hrun⟩ :=
    Job.trace_run_of_not_found r.session r.job r.listing hnone r.start
  have htrace : r.trace = _ := hrun
  refine ⟨by rw [htrace], ?_⟩
  unfold after
  rw [htrace]
  exact r.keeps.closed r.start

theorem forall_mem_moments {P : Store → Prop} : (∀ s ∈ r.moments, P s) ↔
    P r.before ∧ (∀ e ∈ r.trace.sent, P (r.view e.after)) ∧ P r.after := by
  simp [moments, or_imp, forall_and]

theorem eq_before_of_not_begins (h : ¬ r.Begins) : ∀ s ∈ r.moments, s = r.before := by
  obtain ⟨hsent, hafter⟩ := idle_of_not_begins h
  exact forall_mem_moments.mpr ⟨rfl, by simp [hsent], hafter⟩

/-- Nothing but the end of the session can then go wrong that has not gone wrong already. -/
theorem result_of_not_begins (h : ¬ r.Begins) :
    r.trace.result = Job.closed
      ((r.discovered.mapError MigrationError.discovery).map fun _ => Report.nothingFound)
      (r.session.close r.start).1 := by
  have hmigrate := Job.trace_migrate r.session r.job r.listing r.start
  have htrace : r.trace = _ :=
    Job.trace_closingAfter r.session (r.job.migrate r.listing) r.start
  unfold Begins at h
  unfold discovered at h ⊢
  rcases hfound : (discover r.job.naming r.job.config.scriptDirectory r.listing).result with
    error | scripts
  · rw [hfound] at hmigrate
    rw [htrace, hmigrate]
    rfl
  · have hnone : scripts = [] := by
      by_contra hne
      exact h ⟨scripts, hfound, hne⟩
    rw [hfound, hnone] at hmigrate
    rw [htrace, hmigrate]
    rfl

/-- What a run with scripts goes on with are the rows behind its bootstrap. It adds rows of its
pending scripts to them. -/
theorem growth_behind_bootstrap (hleaves : r.LeavesLedger) (hbegins : r.Begins) :
    let kept := r.job.rowsIn r.view r.bootstrap.state
    ∃ added, added <+: pendingAfter kept r.found ∧
      r.job.ledger.storedRows r.after = kept ++ added.map r.job.ledger.storedRow ∧
      ∀ e ∈ r.trace.sent, e ∈ r.bootstrap.sent ∨
        ∃ now, now <+: added ∧
          r.job.rowsIn r.view e.after = kept ++ now.map r.job.ledger.storedRow := by
  intro kept
  obtain ⟨scripts, hfound, hne⟩ := hbegins
  rw [found_of_ok hfound]
  rcases hboot : r.bootstrap.result with error | action
  · -- nothing follows the bootstrap
    have htrace := trace_eq hfound hne
    rw [Trace.bind_of_error hboot] at htrace
    refine ⟨[], List.nil_prefix, ?_, ?_⟩
    · rw [List.map_nil, List.append_nil]
      unfold after
      rw [htrace]
      exact congrArg r.job.ledger.storedRows (r.keeps.closed r.bootstrap.state)
    · rw [htrace]
      exact fun e he => .inl he
  · obtain ⟨hsent, hafter, -⟩ := trace_of_bootstrap hfound hne hboot
    obtain ⟨added, hadded, hend, hgrows⟩ :=
      Job.resume_grows r.keeps (hleaves scripts hfound) action r.bootstrap.state
    refine ⟨added, hadded, ?_, ?_⟩
    · rw [hafter]
      exact hend
    · intro e he
      rw [hsent] at he
      rcases List.mem_append.mp he with he | he
      · exact .inl he
      · exact .inr (hgrows e he)

theorem not_drops_of_refresh (h : r.job.config.refresh = false) : ¬ r.Drops := by
  rintro ⟨-, hdropped⟩
  rcases Ledger.bootstrap_rows r.keeps r.job.config.replication r.job.config.refresh r.start with
    ⟨hnot, -⟩ | ⟨-, hrefresh, -⟩
  · exact hnot hdropped
  · rw [h] at hrefresh
    cases hrefresh

/-- Unless it drops the keyspace, the bootstrap leaves the rows alone. -/
theorem rows_behind_bootstrap (hbegins : r.Begins) (hkept : ¬ r.Drops) :
    r.job.rowsIn r.view r.bootstrap.state = r.job.ledger.storedRows r.before ∧
      ∀ e ∈ r.bootstrap.sent,
        r.job.ledger.storedRows (r.view e.after) = r.job.ledger.storedRows r.before := by
  rcases Ledger.bootstrap_rows r.keeps r.job.config.replication r.job.config.refresh r.start with
    ⟨-, hrows⟩ | ⟨hdropped, -⟩
  · exact hrows
  · exact absurd ⟨hbegins, hdropped⟩ hkept

/-- **Growth.** A run that does not drop the keyspace adds rows of pending scripts to those that are
there, one after the other. -/
theorem growth (hleaves : r.LeavesLedger) (hkept : ¬ r.Drops) :
    ∃ added, added <+: pendingAfter (r.job.ledger.storedRows r.before) r.found ∧
      r.job.ledger.storedRows r.after =
        r.job.ledger.storedRows r.before ++ added.map r.job.ledger.storedRow ∧
      ∀ s ∈ r.moments, ∃ now, now <+: added ∧ r.job.ledger.storedRows s =
        r.job.ledger.storedRows r.before ++ now.map r.job.ledger.storedRow := by
  by_cases hbegins : r.Begins
  · obtain ⟨hrows, hmoments⟩ := rows_behind_bootstrap hbegins hkept
    obtain ⟨added, hadded, hend, hbehind⟩ := growth_behind_bootstrap hleaves hbegins
    rw [hrows] at hadded hend hbehind
    refine ⟨added, hadded, hend, forall_mem_moments.mpr ⟨?_, ?_, ?_⟩⟩
    · exact ⟨[], List.nil_prefix, by simp⟩
    · intro e he
      rcases hbehind e he with hboot | hmoment
      · exact ⟨[], List.nil_prefix, by simpa using hmoments e hboot⟩
      · exact hmoment
    · exact ⟨added, List.prefix_rfl, hend⟩
  · have hsame := eq_before_of_not_begins hbegins
    refine ⟨[], List.nil_prefix, by simp [(idle_of_not_begins hbegins).2], ?_⟩
    intro s hs
    exact ⟨[], List.prefix_rfl, by simp [hsame s hs]⟩

/-- Behind a bootstrap that has dropped the keyspace there are no rows. -/
theorem rows_behind_drop (h : r.Drops) : r.job.rowsIn r.view r.bootstrap.state = [] := by
  rcases Ledger.bootstrap_rows r.keeps r.job.config.replication r.job.config.refresh r.start with
    ⟨hnot, -⟩ | ⟨-, -, hgone⟩
  · exact absurd h.2 hnot
  · exact hgone

/-- A run that drops the keyspace starts the ledger anew, with rows of its own scripts. -/
theorem rows_of_drops (hleaves : r.LeavesLedger) (hdrops : r.Drops) :
    ∃ added, added <+: pendingAfter [] r.found ∧
      r.job.ledger.storedRows r.after = added.map r.job.ledger.storedRow := by
  obtain ⟨added, hadded, hend, -⟩ := growth_behind_bootstrap hleaves hdrops.1
  rw [rows_behind_drop hdrops] at hadded hend
  exact ⟨added, hadded, by simpa using hend⟩

end Run

theorem Sample.forLedger (refuses : Statement → Bool) (start : Store) :
    (run refuses start).For job.ledger :=
  ⟨rfl, rfl⟩

end SchemaMigration
