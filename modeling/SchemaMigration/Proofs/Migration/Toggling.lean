import SchemaMigration.Proofs.Migration.Idempotence
import SchemaMigration.Proofs.Migration.Recovery
import SchemaMigration.Proofs.Migration.Verification

/-!
# Switching verification on and off

Whether a run verifies decides which columns it creates, reads and writes. The run that creates the
ledger settles which columns there are, and no later run changes that. With a column for checksums
every run can read and write; without one, a run that verifies fails on reading and does nothing.

* `Run.Plain`: a run without refresh in a session where nothing but scripts fails on its own account.
* `Run.holds_of_fits`: a run that finds the columns it needs does not fail about the ledger.
* `Run.refused_of_column`: a run that does not is refused.
* `Run.History.column`: the columns are those of the run that created the ledger.
* `Run.toggling`: many runs, each with verification on or off.
-/

namespace SchemaMigration

/-- The errors about reading the ledger, a row of it, or writing one. -/
def MigrationError.LedgerFault : MigrationError → Prop
  | .ledgerRead _ _ | .ledgerRow _ _ | .ledgerWrite _ _ _ => True
  | _ => False

namespace Job

variable {σ : Type} {fate : FailedWrite} {session : Session σ} {view : σ → Store} {job : Job}
  {scripts : List Script}

/-- What sound rows make a run decide is not an error about a row. -/
theorem not_ledgerFault_of_duty {stored : List StoredRow} {rows : List Row}
    (h : rows.Perm (stored.map (Store.StoredRow.cells job.ledger.checksums)))
    (hsound : ∀ row ∈ stored, row.Sound) {error : MigrationError}
    (hduty : job.duty scripts rows = .error error) : ¬ error.LedgerFault := by
  obtain ⟨records, hrows⟩ := Ledger.decodeRows_of_sound h hsound
  unfold duty at hduty
  rcases hnames : modifiedNames scripts (Ledger.sortRecords records) with _ | ⟨name, names⟩
  · simp [hrows, hnames] at hduty
  · simp only [hrows, hnames, Except.error.injEq] at hduty
    rw [← hduty]
    exact id

/-- In a ledger with sound rows and all columns that are read, what follows the bootstrap does not
fail about the ledger. -/
theorem not_ledgerFault_of_resume (hkeeps : session.Keeps fate view job.ledger job.timeout)
    (hgrants : session.Grants view job.ledger job.timeout)
    (hleaves : ∀ script ∈ scripts, session.LeavesLedger view job.ledger job.timeout script)
    {state : σ} (hreadable : job.ledger.Readable (view state))
    (hsound : ∀ row ∈ job.rowsIn view state, row.Sound) {action : KeyspaceAction}
    {error : MigrationError} (h : (job.resume session scripts action state).result = .error error) :
    ¬ error.LedgerFault := by
  obtain ⟨rows, hread, hperm, hsame⟩ := hkeeps.selectRows_of_readable hgrants hreadable
    (MigrationError.ledgerRead job.ledger.qualified)
  rcases hduty : job.duty scripts rows with other | due
  · rw [resume_of_duty_error session hread hduty] at h
    rw [← Except.error.inj h]
    exact not_ledgerFault_of_duty hperm hsound hduty
  · -- each row can be written where it comes to that, so only scripts fail
    rw [resume_of_duty session hread hduty] at h
    rcases hattempt : (session.attempt job.timeout (job.dueSteps 0 due.2)
      (session.ask job.timeout job.ledger.selectRows
        (MigrationError.ledgerRead job.ledger.qualified) state).state).result with other | ⟨⟩
    · simp only [hattempt, Except.map, Except.error.injEq] at h
      rw [← h]
      rw [← hsame] at hreadable
      refine hkeeps.error_of_attempt (P := job.ledger.Readable)
        (Q := fun error => ¬ error.LedgerFault) ?_ ?_ hreadable hattempt
      · apply forall_mem_dueSteps
        · intro script hscript
          exact (hleaves script (mem_of_duty hduty hscript)).spares_shape job.ledger.Fits
        · intro script _ number
          exact hkeeps.preserves_insertRow (job.rowId number) script job.ledger.Fits
      · apply forall_mem_dueSteps
        · intro script _ text _ state _ error herror
          obtain ⟨e, -, -, -, ⟨rows, -, hok⟩ | ⟨-, hfails⟩⟩ := session.ask_cases job.timeout
            (statementStep script text).statement (statementStep script text).blame state
          · cases hok.symm.trans herror
          · rw [← Except.error.inj (hfails.symm.trans herror)]
            exact id
        · intro script _ number state hstate error herror
          obtain ⟨rows, hok⟩ := hkeeps.insertRow_of_readable hgrants hstate (job.rowId number)
            script (job.recordStep number script).blame
          cases hok.symm.trans herror
    · simp [hattempt, Except.map] at h

end Job

namespace Run

variable {fate : FailedWrite} {r : Run fate} {l : Ledger}

/-- A run without refresh. Its session makes no request fail that the store does not refuse; the
statements of the scripts may fail, and they leave the ledger alone. -/
structure Plain (r : Run fate) : Prop where
  refresh : r.job.config.refresh = false
  grants : r.session.Grants r.view r.job.ledger r.job.timeout
  leaves : r.LeavesLedger

/-- The run verifies checksums. -/
def Verifies (r : Run fate) : Prop :=
  r.job.config.verifyChecksums = true

/-- The run fails with an error about reading the ledger, a row of it, or writing one. -/
def FailsAboutLedger (r : Run fate) : Prop :=
  ∃ error, r.trace.result = .error error ∧ error.LedgerFault

/-- The run finds no ledger and leaves one. -/
def Creates (r : Run fate) : Prop :=
  ¬ r.job.ledger.Present r.before ∧ r.job.ledger.Present r.after

/-- The rows that the run has added at the end of those that it has found. -/
def added (r : Run fate) : List StoredRow :=
  (r.job.ledger.storedRows r.after).drop (r.job.ledger.storedRows r.before).length

/-- The run is refused on reading the ledger: it sends the two queries and nothing else, fails with
the error about the second one, and leaves the store as it is. -/
structure Refused (r : Run fate) (l : Ledger) : Prop where
  result : ∃ reason, r.trace.result = .error (.ledgerRead l.qualified reason)
  queries : r.trace.sent.map (·.statement) =
    [r.job.ledger.listTables.withTimeout r.job.timeout,
      r.job.ledger.selectRows.withTimeout r.job.timeout]
  harmless : r.after = r.before

/-! ## One run -/

/-- A run that adds to the ledger has its scripts recorded with checksums if it verifies. -/
theorem Plain.added_eq (h : r.Plain) :
    ∃ recorded, recorded <+: pendingAfter (r.job.ledger.storedRows r.before) r.found ∧
      r.added = recorded.map r.job.ledger.storedRow ∧
      r.job.ledger.storedRows r.after = r.job.ledger.storedRows r.before ++ r.added := by
  obtain ⟨recorded, hrecorded, hend, -⟩ := growth h.leaves (not_drops_of_refresh h.refresh)
  have hadded : r.added = recorded.map r.job.ledger.storedRow := by
    rw [added, hend, List.drop_left]
  exact ⟨recorded, hrecorded, hadded, by rw [hadded, hend]⟩

theorem Plain.checksum_iff (h : r.Plain) {row : StoredRow} (hrow : row ∈ r.added) :
    row.checksum.isSome = true ↔ r.Verifies := by
  obtain ⟨recorded, -, hadded, -⟩ := h.added_eq
  rw [hadded] at hrow
  obtain ⟨script, -, rfl⟩ := List.mem_map.mp hrow
  have hchecksums : r.job.ledger.checksums = r.job.config.verifyChecksums := rfl
  unfold Ledger.storedRow Verifies
  rw [hchecksums]
  split <;> simp_all

/-- Rows stay records. -/
theorem Plain.sound_after (h : r.Plain)
    (hsound : ∀ row ∈ r.job.ledger.storedRows r.before, row.Sound) :
    ∀ row ∈ r.job.ledger.storedRows r.after, row.Sound := by
  obtain ⟨recorded, hrecorded, hadded, hend⟩ := h.added_eq
  rw [hend, hadded]
  apply Ledger.sound_append hsound
  intro script hscript
  have hfound : script ∈ r.found := List.mem_of_mem_filter (hrecorded.subset hscript)
  exact version_le_of_discover (discovered_of_mem_found hfound) script hfound

/-- Where the keyspace is absent or has its ledger, the bootstrap goes through: it leaves the ledger
alone, or it creates one. -/
theorem Plain.bootstrapped (h : r.Plain) (hstanding : r.job.ledger.Standing r.before) :
    ∃ action, r.bootstrap.result = .ok action ∧
      ((r.job.ledger.Present r.before ∧ r.view r.bootstrap.state = r.before) ∨
        (r.job.ledger.tables? r.before = none ∧
          r.job.ledger.stored? (r.view r.bootstrap.state) = some ⟨r.job.ledger.checksums, []⟩)) := by
  obtain ⟨action, hpast⟩ := Ledger.bootstrap_of_grants r.keeps h.grants r.job.config.replication
    r.job.config.refresh hstanding.tables?_ne
  refine ⟨action, hpast, ?_⟩
  rcases past_cases hpast with ⟨-, -, htables, hsame⟩ | ⟨-, hcause, hstored⟩
  · rcases hstanding with habsent | hpresent
    · exact absurd (congrArg (·.getD []) habsent) htables
    · exact .inl ⟨hpresent, hsame⟩
  · rcases hstanding with habsent | hpresent
    · exact .inr ⟨habsent, hstored⟩
    · rw [h.refresh] at hcause
      exact absurd (hcause.resolve_left Bool.false_ne_true) hpresent.tables_ne_nil

/-- Behind the bootstrap the columns stay what they are. -/
theorem Plain.shape?_after (h : r.Plain) {scripts : List Script}
    (hfound : r.discovered = .ok scripts) (hne : scripts ≠ []) {action : KeyspaceAction}
    (hpast : r.bootstrap.result = .ok action) :
    r.job.ledger.shape? r.after = r.job.ledger.shape? (r.view r.bootstrap.state) := by
  rw [(trace_of_bootstrap hfound hne hpast).2.1]
  refine (Job.shape?_resume r.keeps
    (P := fun shape => shape = r.job.ledger.shape? (r.view r.bootstrap.state)) ?_ action rfl).1
  intro script hscript
  exact (h.leaves scripts hfound script hscript).spares_shape
    (· = r.job.ledger.shape? (r.view r.bootstrap.state))

/-- A run leaves the columns of a ledger as it has found them. -/
theorem Plain.shape?_of_present (h : r.Plain) (hpresent : r.job.ledger.Present r.before) :
    r.job.ledger.shape? r.after = r.job.ledger.shape? r.before := by
  by_cases hbegins : r.Begins
  · obtain ⟨scripts, hfound, hne⟩ := hbegins
    obtain ⟨action, hpast, ⟨-, hsame⟩ | ⟨habsent, -⟩⟩ := h.bootstrapped (.inr hpresent)
    · rw [h.shape?_after hfound hne hpast, hsame]
    · exact absurd (congrArg (·.getD []) habsent) hpresent.tables_ne_nil
  · rw [(idle_of_not_begins hbegins).2]

/-- A run from an absent keyspace creates a ledger with the columns that it uses itself, or it has no
scripts and does nothing. -/
theorem Plain.shape?_of_absent (h : r.Plain) (habsent : r.job.ledger.tables? r.before = none) :
    r.job.ledger.shape? r.after = some r.job.config.verifyChecksums ∨
      (¬ r.Begins ∧ r.after = r.before) := by
  by_cases hbegins : r.Begins
  · left
    obtain ⟨scripts, hfound, hne⟩ := hbegins
    obtain ⟨action, hpast, ⟨hpresent, -⟩ | ⟨-, hstored⟩⟩ := h.bootstrapped (.inl habsent)
    · exact absurd (congrArg (·.getD []) habsent) hpresent.tables_ne_nil
    · rw [h.shape?_after hfound hne hpast, Ledger.shape?, hstored]
      rfl
  · exact .inr ⟨hbegins, (idle_of_not_begins hbegins).2⟩

/-- A run that finds the keyspace absent, or a ledger with sound rows and the columns it reads, does
not fail about the ledger. -/
theorem Plain.holds_of_fits (h : r.Plain) (hstanding : r.job.ledger.Standing r.before)
    (hsound : ∀ row ∈ r.job.ledger.storedRows r.before, row.Sound)
    (hfits : r.job.ledger.Present r.before → r.job.ledger.Readable r.before) :
    ¬ r.FailsAboutLedger := by
  rintro ⟨error, herror, hfault⟩
  have hother : ∀ reason, error ≠ .close reason := by
    rintro reason rfl
    exact hfault
  by_cases hbegins : r.Begins
  · obtain ⟨scripts, hfound, hne⟩ := hbegins
    obtain ⟨action, hpast, hboot⟩ := h.bootstrapped hstanding
    obtain ⟨-, -, close, hresult⟩ := trace_of_bootstrap hfound hne hpast
    -- behind the bootstrap there is a ledger that can be read
    have hready : r.job.ledger.Readable (r.view r.bootstrap.state) ∧
        ∀ row ∈ r.job.rowsIn r.view r.bootstrap.state, row.Sound := by
      rcases hboot with ⟨hpresent, hsame⟩ | ⟨-, hstored⟩
      · rw [Job.rowsIn, hsame]
        exact ⟨hfits hpresent, hsound⟩
      · have hshape : r.job.ledger.shape? (r.view r.bootstrap.state) =
            some r.job.ledger.checksums := by
          rw [Ledger.shape?, hstored]
          rfl
        rw [Job.rowsIn, Ledger.storedRows_of_stored? hstored]
        exact ⟨⟨_, hshape, id⟩, by simp⟩
    rw [herror] at hresult
    exact Job.not_ledgerFault_of_resume r.keeps h.grants (h.leaves scripts hfound) hready.1 hready.2
      ((Job.closed_eq_error hother).mp hresult.symm) hfault
  · rw [result_of_not_begins hbegins, Job.closed_eq_error hother] at herror
    rcases hdiscovered : r.discovered with reason | scripts
    · rw [hdiscovered] at herror
      cases herror
      exact hfault
    · rw [hdiscovered] at herror
      cases herror

/-- A run that verifies, over a ledger without a column for checksums, is refused. -/
theorem Plain.refused_of_column (h : r.Plain) (hverifies : r.Verifies) (hbegins : r.Begins)
    (hcolumn : r.job.ledger.shape? r.before = some false) : r.Refused r.job.ledger := by
  obtain ⟨scripts, hfound, hne⟩ := hbegins
  have hpresent : r.job.ledger.Present r.before := by
    rw [Ledger.present_iff_shape?, hcolumn]
    rfl
  obtain ⟨tables, htables, hlisted, hsame⟩ := r.keeps.listTables_of_present h.grants hpresent
    r.job.ledger.bootstrapError
  obtain ⟨e, hsent, hstatement, -, hcase⟩ := r.keeps.ask_cases_of_ne (r := .selectRows) (by simp)
    (MigrationError.ledgerRead r.job.ledger.qualified)
    (r.session.ask r.job.timeout r.job.ledger.listTables r.job.ledger.bootstrapError r.start).state
  simp only [Ledger.Request.statement] at hsent hstatement hcase
  have hrun : r.trace = _ :=
    Job.trace_run_of_tables r.session h.refresh hfound hne htables hlisted
  rcases hcase with ⟨rows, -, -, hdone⟩ | ⟨error, herror, -, hunread⟩
  · -- a ledger that has been read has the column
    obtain ⟨column, hshape, hneeds⟩ := Ledger.Request.readable_of_done_selectRows hdone
    rw [hsame, show r.view r.start = r.before from rfl, hcolumn] at hshape
    cases (Option.some.inj hshape).trans (hneeds hverifies)
  · simp only [Job.resume, Trace.bind_of_error herror] at hrun
    refine ⟨⟨error, ?_⟩, ?_, ?_⟩
    · rw [hrun]
      exact Job.closed_error _ _
    · rw [hrun, hsent, r.session.ask_sent]
      simp [hstatement]
    · rw [after, hrun]
      exact ((r.keeps.closed _).trans hunread).trans hsame

/-! ## Many runs -/

theorem For.shape?_eq (h : r.For l) (s : Store) : r.job.ledger.shape? s = l.shape? s := by
  unfold Ledger.shape? Ledger.stored?
  rw [h.keyspace, h.table]

theorem For.qualified_eq (h : r.For l) : r.job.ledger.qualified = l.qualified := by
  unfold Ledger.qualified
  rw [h.keyspace, h.table]

namespace History

variable {start s : Store} {runs later earlier : List (Run fate)} {creator : Run fate}

/-- Any run of a history starts where those before it have led to. -/
theorem before_of_append (h : History l start (later ++ r :: earlier) s) :
    r.For l ∧ History l start earlier r.before := by
  induction later generalizing s with
  | nil =>
      cases h with
      | run _ hfor before => exact ⟨hfor, before⟩
  | cons last later ih =>
      cases h with
      | run _ _ before => exact ih before

/-- Plain runs from an absent keyspace leave it absent or with its ledger. -/
theorem standing_of_plain (h : History l start runs s) (habsent : l.tables? start = .none)
    (hplain : ∀ r ∈ runs, r.Plain) : l.Standing s := by
  induction h with
  | none => exact .inl habsent
  | run r hfor before ih =>
      obtain ⟨hthis, hothers⟩ := List.forall_mem_cons.mp hplain
      have hbefore := ih hothers
      rw [← hfor.standing_iff] at hbefore ⊢
      rcases hbefore with hnone | hpresent
      · rcases hthis.shape?_of_absent hnone with hshape | ⟨-, hsame⟩
        · exact .inr (Ledger.present_iff_shape?.mpr (by rw [hshape]; rfl))
        · exact .inl (hsame ▸ hnone)
      · right
        rw [Ledger.present_iff_shape?, hthis.shape?_of_present hpresent,
          ← Ledger.present_iff_shape?]
        exact hpresent

theorem sound_of_plain (h : History l start runs s) (habsent : l.tables? start = .none)
    (hplain : ∀ r ∈ runs, r.Plain) : ∀ row ∈ l.storedRows s, row.Sound := by
  induction h with
  | none =>
      rw [Ledger.storedRows_of_none (Ledger.stored?_of_tables?_none habsent)]
      simp
  | run r hfor before ih =>
      obtain ⟨hthis, hothers⟩ := List.forall_mem_cons.mp hplain
      have hbefore := ih hothers
      rw [← hfor.storedRows_eq] at hbefore ⊢
      exact hthis.sound_after hbefore

/-- The ledger holds what the runs have added, one after the other. -/
theorem rows_of_plain (h : History l start runs s) (habsent : l.tables? start = .none)
    (hplain : ∀ r ∈ runs, r.Plain) : l.storedRows s = runs.reverse.flatMap added := by
  induction h with
  | none =>
      rw [Ledger.storedRows_of_none (Ledger.stored?_of_tables?_none habsent)]
      rfl
  | run r hfor before ih =>
      obtain ⟨hthis, hothers⟩ := List.forall_mem_cons.mp hplain
      obtain ⟨-, -, -, hend⟩ := hthis.added_eq
      rw [hfor.storedRows_eq, hfor.storedRows_eq, ih hothers] at hend
      rw [hend, List.reverse_cons, List.flatMap_append, List.flatMap_singleton]

/-- **The columns** of the ledger are those that the run which created it has chosen. -/
theorem column (h : History l start (later ++ creator :: earlier) s)
    (habsent : l.tables? start = .none) (hplain : ∀ r ∈ later ++ creator :: earlier, r.Plain)
    (hcreates : creator.Creates) : l.shape? s = some creator.job.config.verifyChecksums := by
  -- on the runs since the creation; each of them finds the ledger and leaves its columns
  induction later generalizing s with
  | nil =>
      cases h with
      | run _ hfor before =>
          obtain ⟨hthis, hothers⟩ := List.forall_mem_cons.mp hplain
          have hbefore := before.standing_of_plain habsent hothers
          rw [← hfor.standing_iff] at hbefore
          rw [← hfor.shape?_eq]
          rcases hthis.shape?_of_absent (hbefore.resolve_right hcreates.1) with
            hshape | ⟨-, hsame⟩
          · exact hshape
          · exact absurd (hsame ▸ hcreates.2) hcreates.1
  | cons r later ih =>
      cases h with
      | run _ hfor before =>
          obtain ⟨hthis, hothers⟩ := List.forall_mem_cons.mp hplain
          have hbefore := ih before hothers
          rw [← hfor.shape?_eq] at hbefore ⊢
          have hpresent : r.job.ledger.Present r.before :=
            Ledger.present_iff_shape?.mpr (by rw [hbefore]; rfl)
          exact (hthis.shape?_of_present hpresent).trans hbefore

end History

/-- What becomes of runs for a ledger, latest first, of which one has created it. -/
structure Toggled (l : Ledger) (later : List (Run fate)) (creator : Run fate)
    (earlier : List (Run fate)) (s : Store) : Prop where
  /-- If that one verified, no later run fails about the ledger. -/
  on : creator.Verifies → ∀ r ∈ later, ¬ r.FailsAboutLedger
  /-- If it did not, every later run that verifies and has found scripts is refused. -/
  off : ¬ creator.Verifies → ∀ r ∈ later, r.Verifies → r.Begins → r.Refused l
  /-- A run that does not verify never fails about the ledger. -/
  without : ∀ r ∈ later ++ creator :: earlier, ¬ r.Verifies → ¬ r.FailsAboutLedger
  /-- The ledger holds the rows that each run has added. -/
  rows : l.storedRows s = (later ++ creator :: earlier).reverse.flatMap added
  /-- These have a checksum exactly if the run verified. -/
  checksums : ∀ r ∈ later ++ creator :: earlier, ∀ row ∈ r.added,
    (row.checksum.isSome = true ↔ r.Verifies)

/-- **Toggling.** Verification may be switched on or off before each run. Whether the run that has
created the ledger verified decides how the later ones fare. -/
theorem toggling {start s : Store} {later earlier : List (Run fate)} {creator : Run fate}
    (h : History l start (later ++ creator :: earlier) s) (habsent : l.tables? start = .none)
    (hplain : ∀ r ∈ later ++ creator :: earlier, r.Plain) (hcreates : creator.Creates) :
    Toggled l later creator earlier s := by
  -- what a later run finds
  have hlater : ∀ r ∈ later, r.For l ∧ l.shape? r.before =
      some creator.job.config.verifyChecksums := by
    intro r hr
    obtain ⟨front, back, rfl⟩ := List.append_of_mem hr
    rw [List.append_assoc, List.cons_append] at h hplain
    obtain ⟨hfor, hbefore⟩ := h.before_of_append
    refine ⟨hfor, hbefore.column habsent ?_ hcreates⟩
    intro other hother
    exact hplain other (List.mem_append_right _ (List.mem_cons_of_mem _ hother))
  have hholds : ∀ r ∈ later ++ creator :: earlier,
      (r.job.ledger.Present r.before → r.job.ledger.Readable r.before) →
        ¬ r.FailsAboutLedger := by
    intro r hr hfits
    obtain ⟨front, back, hsplit⟩ := List.append_of_mem hr
    rw [hsplit] at h hplain
    obtain ⟨hfor, hbefore⟩ := h.before_of_append
    have hback : ∀ other ∈ back, other.Plain := fun other hother =>
      hplain other (List.mem_append_right _ (List.mem_cons_of_mem _ hother))
    refine (hplain r (by simp)).holds_of_fits ?_ ?_ hfits
    · rw [hfor.standing_iff]
      exact hbefore.standing_of_plain habsent hback
    · rw [hfor.storedRows_eq]
      exact hbefore.sound_of_plain habsent hback
  refine ⟨?_, ?_, ?_, ?_, ?_⟩
  · intro hon r hr
    obtain ⟨hfor, hshape⟩ := hlater r hr
    refine hholds r (List.mem_append_left _ hr) fun _ => ⟨_, ?_, fun _ => hon⟩
    rw [hfor.shape?_eq, hshape]
  · intro hoff r hr hverifies hbegins
    obtain ⟨hfor, hshape⟩ := hlater r hr
    have hcolumn : creator.job.config.verifyChecksums = false := Bool.not_eq_true _ ▸ hoff
    rw [← hfor.shape?_eq, hcolumn] at hshape
    have hrefused := (hplain r (List.mem_append_left _ hr)).refused_of_column hverifies hbegins
      hshape
    refine ⟨?_, hrefused.queries, hrefused.harmless⟩
    rw [← hfor.qualified_eq]
    exact hrefused.result
  · intro r hr hnot
    refine hholds r hr fun hpresent => ?_
    obtain ⟨column, hshape⟩ := Option.isSome_iff_exists.mp (Ledger.present_iff_shape?.mp hpresent)
    exact ⟨column, hshape, fun hverifies => absurd hverifies hnot⟩
  · exact h.rows_of_plain habsent hplain
  · intro r hr row hrow
    exact (hplain r hr).checksum_iff hrow

end Run

/-! ## A sample -/

namespace Sample

theorem plain (start : Store) : (run (fun _ => false) start).Plain where
  refresh := rfl
  grants := grants start
  leaves := leavesLedger _ start

theorem verifying_plain (start : Store) : (verifyingRun (fun _ => false) start).Plain where
  refresh := rfl
  grants := Store.session_grants .cql verifying_hasColumn verifying.timeout
  leaves := verifying_leavesLedger _ start

theorem creates : (run (fun _ => false) Store.empty).Creates := by
  have habsent : job.ledger.tables? Store.empty = none := rfl
  refine ⟨fun hpresent => hpresent.tables_ne_nil (congrArg (·.getD []) habsent), ?_⟩
  rcases (plain Store.empty).shape?_of_absent habsent with hshape | ⟨hidle, -⟩
  · exact Ledger.present_iff_shape?.mpr (by rw [hshape]; rfl)
  · exact absurd ⟨scripts, discovered _ _, List.cons_ne_nil _ _⟩ hidle

end Sample

/-- A run that creates the ledger without verification, a run with verification, and one without. -/
theorem Run.toggling_sample :
    let first := Sample.run (fun _ => false) Store.empty
    let second := Sample.verifyingRun (fun _ => false) first.after
    let third := Sample.run (fun _ => false) second.after
    History Sample.job.ledger Store.empty [third, second, first] third.after ∧
      (∀ r ∈ [third, second, first], r.Plain) ∧ first.Creates ∧
      Toggled Sample.job.ledger [third, second] first [] third.after ∧
      second.Refused Sample.job.ledger := by
  intro first second third
  have hhistory : History Sample.job.ledger Store.empty [third, second, first] third.after :=
    .run third ⟨rfl, rfl⟩ (.run second ⟨rfl, rfl⟩ (.run first ⟨rfl, rfl⟩ .none))
  have hplain : ∀ r ∈ [third, second, first], r.Plain := by
    simp only [List.forall_mem_cons, List.not_mem_nil, false_implies, implies_true, and_true]
    exact ⟨Sample.plain _, Sample.verifying_plain _, Sample.plain _⟩
  have htoggled : Toggled Sample.job.ledger [third, second] first [] third.after :=
    toggling hhistory rfl hplain Sample.creates
  refine ⟨hhistory, hplain, Sample.creates, htoggled, ?_⟩
  exact htoggled.off Bool.false_ne_true second (by simp) rfl
    ⟨Sample.scripts, Sample.discovered (fun _ => false) first.after, List.cons_ne_nil _ _⟩

end SchemaMigration
