import SchemaMigration.Proofs.Migration.Inspection
import SchemaMigration.Proofs.Migration.Plan

/-!
# A second run has nothing to do

A run that succeeds leaves a ledger that can be read and verified, and no script that is newer than
its rows. From such a store the next run goes no further than reading the ledger.

* `Ledger.Clear`: rows that keep no run from going on.
* `Run.exists_of_succeeded`: what a run that succeeds has read and written.
* `Run.Settled`, `Run.settled_after`: what it leaves.
* `Run.repeats_of_settled`, `Run.status_of_settled`: what a run or a status from there comes to.
* `Run.idempotent`: a second run and a status after a run that has succeeded.
-/

namespace SchemaMigration

/-! ## Rows that keep no run from going on -/

namespace Ledger

variable {l : Ledger} {scripts : List Script} {stored : List StoredRow}

/-- The rows are records, and none of them is that of a changed script. -/
structure Clear (l : Ledger) (scripts : List Script) (stored : List StoredRow) : Prop where
  sound : ∀ row ∈ stored, row.Sound
  unchanged : modifiedNames scripts (stored.map l.recordIn) = []

theorem recordIn_storedRow (l : Ledger) (script : Script) :
    l.recordIn (l.storedRow script) = l.recordOf script := by
  simp only [recordIn, storedRow, recordOf, Int.toNat_natCast, AppliedScript.mk.injEq, true_and]
  split <;> rfl

/-- What is written of a script does not differ from it. -/
theorem not_differs_recordOf (hnames : (scripts.map (·.name)).Nodup) {script : Script}
    (hscript : script ∈ scripts) : ¬ (l.recordOf script).Differs scripts := by
  rintro ⟨expected, hexpected, other, hother, hname, hdiffers⟩
  have hsame : other = script := List.inj_on_of_nodup_map hnames hother hscript hname
  simp only [recordOf] at hexpected
  split at hexpected
  · exact hdiffers (hsame ▸ Option.some.inj hexpected)
  · cases hexpected

/-- The row of a script with a version that discovery lets through. -/
theorem sound_storedRow {script : Script} (h : script.version ≤ maxColumnVersion) :
    (l.storedRow script).Sound := by
  have hbound : maxColumnVersion < versionBound := by decide
  exact ⟨Int.natCast_nonneg _, Int.ofNat_lt.mpr (Nat.lt_of_le_of_lt h hbound)⟩

/-- Behind records the rows of such scripts are records. -/
theorem sound_append (hsound : ∀ row ∈ stored, row.Sound) {added : List Script}
    (hroom : ∀ script ∈ added, script.version ≤ maxColumnVersion) :
    ∀ row ∈ stored ++ added.map l.storedRow, row.Sound :=
  List.forall_mem_append.mpr ⟨hsound, List.forall_mem_map.mpr fun script hscript =>
    sound_storedRow (hroom script hscript)⟩

/-- Rows stay clear when those of scripts are added. -/
theorem Clear.append (h : l.Clear scripts stored) (hnames : (scripts.map (·.name)).Nodup)
    (hroom : ∀ script ∈ scripts, script.version ≤ maxColumnVersion) {added : List Script}
    (hadded : ∀ script ∈ added, script ∈ scripts) :
    l.Clear scripts (stored ++ added.map l.storedRow) := by
  refine ⟨?_, ?_⟩
  · exact sound_append h.sound fun script hscript => hroom script (hadded script hscript)
  · rw [List.map_append, modifiedNames_append, h.unchanged, List.nil_append, List.map_map]
    by_contra hne
    obtain ⟨name, hname⟩ := List.exists_mem_of_ne_nil _ hne
    obtain ⟨record, hrecord, -, hdiffers⟩ := differs_of_mem_modifiedNames hname
    obtain ⟨script, hscript, rfl⟩ := List.mem_map.mp hrecord
    rw [Function.comp_apply, recordIn_storedRow] at hdiffers
    exact not_differs_recordOf hnames (hadded script hscript) hdiffers

end Ledger

namespace Job

variable {job : Job} {scripts : List Script} {rows : List Row} {stored : List StoredRow}

/-- A run that goes on has found the rows clear, and applies the scripts that are newer. -/
theorem clear_of_duty (h : rows.Perm (stored.map (Store.StoredRow.cells job.ledger.checksums)))
    {due : Version × List Script} (hduty : job.duty scripts rows = .ok due) :
    job.ledger.Clear scripts stored ∧ (due.1 : Int) = newestRow stored ∧
      due.2 = pendingAfter stored scripts := by
  unfold duty at hduty
  rcases hrows : job.ledger.decodeRows rows with error | records
  · simp [hrows] at hduty
  · rcases hnames : modifiedNames scripts (Ledger.sortRecords records) with _ | ⟨name, names⟩
    · simp only [hrows, hnames, Except.ok.injEq] at hduty
      obtain ⟨hsound, hperm⟩ := Ledger.decodeRows_cells h hrows
      have hversion := Ledger.newestVersion_of_decodeRows h hrows
      have hunchanged := (modifiedNames_perm scripts hperm).symm
      rw [(modifiedNames_sortRecords_eq_nil scripts records).mp hnames] at hunchanged
      rw [← hduty]
      exact ⟨⟨hsound, hunchanged.eq_nil⟩, hversion, pending_eq_pendingAfter hversion scripts⟩
    · simp [hrows, hnames] at hduty

/-- A run goes on if the rows are clear. -/
theorem duty_of_clear (h : rows.Perm (stored.map (Store.StoredRow.cells job.ledger.checksums)))
    (hclear : job.ledger.Clear scripts stored) {version : Version}
    (hversion : (version : Int) = newestRow stored) :
    job.duty scripts rows = .ok (version, pendingAfter stored scripts) := by
  obtain ⟨records, hrows⟩ := Ledger.decodeRows_of_sound h hclear.sound
  have hperm := (Ledger.decodeRows_cells h hrows).2
  have hunchanged := modifiedNames_perm scripts hperm
  rw [hclear.unchanged] at hunchanged
  have hnames := (modifiedNames_sortRecords_eq_nil scripts records).mpr hunchanged.eq_nil
  have hsame : newestVersion records = version :=
    Int.ofNat_inj.mp ((Ledger.newestVersion_of_decodeRows h hrows).trans hversion.symm)
  simp only [duty, hrows, hnames, hsame, pending_eq_pendingAfter hversion scripts]

end Job

/-! ## The newest version -/

variable {l : Ledger} {scripts : List Script} {stored : List StoredRow}

/-- When all that was pending has been applied, nothing is. -/
theorem pendingAfter_applied :
    pendingAfter (stored ++ (pendingAfter stored scripts).map l.storedRow) scripts = [] := by
  rw [pendingAfter, List.filter_eq_nil_iff]
  intro script hscript hnewer
  have hlt := of_decide_eq_true hnewer
  rw [newestRow_append] at hlt
  have hpending : script ∈ pendingAfter stored scripts := by
    refine List.mem_filter.mpr ⟨hscript, decide_eq_true ?_⟩
    exact Int.lt_of_le_of_lt (Int.le_max_left _ _) hlt
  -- so its own row is among the new ones
  have hle := version_le_newestRow (List.mem_map_of_mem (f := l.storedRow) hpending)
  have hversion : (l.storedRow script).version = script.version := rfl
  omega

/-- The current version of the report is then the newest one in the ledger. -/
theorem newestRow_applied {job : Job} {action : KeyspaceAction} {version : Version}
    (hsorted : scripts.Pairwise fun a b => a.version ≤ b.version)
    (hversion : (version : Int) = newestRow stored) :
    ((job.reportOf scripts action (version, pendingAfter stored scripts)).currentVersion : Int) =
      newestRow (stored ++ (pendingAfter stored scripts).map l.storedRow) := by
  have hdue := hsorted.filter fun s => newestRow stored < s.version
  rcases List.eq_nil_or_concat (pendingAfter stored scripts) with hnone | ⟨front, last, hlast⟩
  · simp [hnone, Job.reportOf, Report.currentVersion, hversion]
  · have hcurrent : (job.reportOf scripts action
        (version, pendingAfter stored scripts)).currentVersion = last.version := by
      simp [hlast, Job.reportOf, Report.currentVersion, Ledger.recordOf]
    have hmem : last ∈ pendingAfter stored scripts := by simp [hlast]
    rw [hcurrent]
    refine Int.le_antisymm ?_ ?_
    · exact version_le_newestRow
        (List.mem_append_right _ (List.mem_map_of_mem (f := l.storedRow) hmem))
    · -- the last one that was due is at least as new as the others, and newer than what was there
      have hnewer : newestRow stored < last.version :=
        of_decide_eq_true (List.mem_filter.mp hmem).2
      refine newestRow_le_iff.mpr fun row hrow => ?_
      rcases List.mem_append.mp hrow with hrow | hrow
      · exact Int.le_of_lt (Int.lt_of_le_of_lt (version_le_newestRow hrow) hnewer)
      · obtain ⟨script, hscript, rfl⟩ := List.mem_map.mp hrow
        have hpairs : (pendingAfter stored scripts).Pairwise (·.version ≤ ·.version) := hdue
        rw [hlast, List.concat_eq_append, List.pairwise_append] at hpairs
        rw [hlast, List.concat_eq_append, List.mem_append, List.mem_singleton] at hscript
        rcases hscript with hscript | rfl
        · exact Int.ofNat_le.mpr (hpairs.2.2 script hscript last (List.mem_singleton_self last))
        · exact Int.le_refl _

/-! ## What a run leaves -/

namespace Run

variable {fate fate' : FailedWrite} {r : Run fate}

/-- The store holds a ledger that can be read and verified, with rows up to a version, and no script
is newer. -/
structure Settled (l : Ledger) (scripts : List Script) (version : Version) (s : Store) : Prop where
  readable : l.Readable s
  clear : l.Clear scripts (l.storedRows s)
  newest : (version : Int) = newestRow (l.storedRows s)
  done : pendingAfter (l.storedRows s) scripts = []

/-- A run that gets to the scripts has found a ledger that it can read, and it leaves one. -/
theorem readable_after (hleaves : r.LeavesLedger) (hfound : r.discovered = .ok scripts)
    (hne : scripts ≠ []) {action : KeyspaceAction} (hpast : r.bootstrap.result = .ok action)
    (hreadable : r.job.ledger.Readable (r.view r.bootstrap.state)) :
    r.job.ledger.Readable r.after := by
  rw [(trace_of_bootstrap hfound hne hpast).2.1]
  have hspares : ∀ script ∈ scripts, r.session.Spares r.view r.job.timeout
      (fun s => r.job.ledger.Fits (r.job.ledger.shape? s)) script := fun script hscript =>
    (hleaves scripts hfound script hscript).spares_shape r.job.ledger.Fits
  exact (Job.shape?_resume r.keeps hspares action hreadable).1

/-- A run with scripts that succeeds has read a ledger that was clear, and added all that was due. -/
theorem exists_of_succeeded (hleaves : r.LeavesLedger) (hfound : r.discovered = .ok scripts)
    (hne : scripts ≠ []) {report : Report} (hok : r.trace.result = .ok report) :
    ∃ action, r.bootstrap.result = .ok action ∧
      r.job.ledger.Readable (r.view r.bootstrap.state) ∧
      r.job.ledger.Clear scripts (r.base action) ∧
      r.job.ledger.storedRows r.after = r.base action ++
        (pendingAfter (r.base action) scripts).map r.job.ledger.storedRow ∧
      (report.currentVersion : Int) = newestRow (r.job.ledger.storedRows r.after) := by
  rcases bootstrap_cases hfound hne with ⟨error, -, herror, -⟩ | ⟨action, hpast⟩
  · cases hok.symm.trans herror
  · obtain ⟨-, -, close, hresult⟩ := trace_of_bootstrap hfound hne hpast
    obtain ⟨rows, due, hread, hduty, -⟩ := Job.resume_eq_ok r.session
      (Job.closed_eq_ok (hresult.symm.trans hok))
    have hperm := Job.perm_of_ask_selectRows r.keeps hread
    rw [rowsIn_bootstrap hpast] at hperm
    rcases outcome_cases hleaves hfound hne hpast with ⟨error, herror, -⟩ |
      ⟨version, closing, hversion, hreport, hrows⟩ |
      ⟨applied, script, rest, -, ⟨step, -, front, e, -, -, -, herror⟩, -⟩
    · cases hok.symm.trans herror
    · have hreport := Except.ok.inj (Job.closed_eq_ok (hreport.symm.trans hok))
      refine ⟨action, hpast, Job.readable_of_ask_selectRows r.keeps hread,
        (Job.clear_of_duty hperm hduty).1, hrows, ?_⟩
      rw [← hreport, hrows]
      exact newestRow_applied (sorted_of_discover hfound) hversion
    · cases hok.symm.trans herror

/-- A run that succeeds leaves the store settled. -/
theorem settled_after (hleaves : r.LeavesLedger) (hdistinct : r.listing.Distinct)
    (hfound : r.discovered = .ok scripts) (hne : scripts ≠ []) {report : Report}
    (hok : r.trace.result = .ok report) :
    Settled r.job.ledger scripts report.currentVersion r.after := by
  obtain ⟨action, hpast, hreadable, hclear, hrows, hversion⟩ :=
    exists_of_succeeded hleaves hfound hne hok
  refine ⟨readable_after hleaves hfound hne hpast hreadable, ?_, hversion, ?_⟩
  · rw [hrows]
    exact hclear.append (names_of_discover hfound hdistinct) (version_le_of_discover hfound)
      fun script hscript => List.mem_of_mem_filter hscript
  · rw [hrows]
    exact pendingAfter_applied

/-! ## What follows -/

/-- A run or a status after a run, with the same configuration, apart from refresh, and the same
directory. Its session has no faults of its own. -/
structure Follows (next : Run fate') (first : Run fate) : Prop where
  config : { next.job.config with refresh := false } = { first.job.config with refresh := false }
  naming : next.job.naming = first.job.naming
  dialect : next.job.dialect = first.job.dialect
  listing : next.listing = first.listing
  before : next.before = first.after
  grants : next.session.Grants next.view next.job.ledger next.job.timeout
  closes : ∀ state, (next.session.close state).1 = none

namespace Follows

variable {next : Run fate'} {first : Run fate} (h : Follows next first)
include h

theorem ledger : next.job.ledger = first.job.ledger := by
  have hkeyspace := congrArg Config.keyspace h.config
  have htable := congrArg Config.table h.config
  have hverifies := congrArg Config.verifyChecksums h.config
  simp only at hkeyspace htable hverifies
  simp [Job.ledger, h.dialect, hkeyspace, htable, hverifies]

theorem discovered : next.discovered = first.discovered := by
  have hdirectory := congrArg Config.scriptDirectory h.config
  simp only at hdirectory
  simp [Run.discovered, h.naming, h.listing, hdirectory]

end Follows

variable {version : Version}

/-- In a settled store the ledger can be read, and it leaves nothing to do. -/
theorem duty_of_settled {state : r.σ}
    (hsettled : Settled r.job.ledger scripts version (r.view state))
    (hgrants : r.session.Grants r.view r.job.ledger r.job.timeout) :
    let read := r.session.ask r.job.timeout r.job.ledger.selectRows
      (MigrationError.ledgerRead r.job.ledger.qualified) state
    ∃ rows, read.result = .ok (.ofRows rows) ∧ r.job.duty scripts rows = .ok (version, []) ∧
      r.view read.state = r.view state := by
  obtain ⟨rows, hread, hperm, hsame⟩ := r.keeps.selectRows_of_readable hgrants hsettled.readable
    (MigrationError.ledgerRead r.job.ledger.qualified)
  have hduty := Job.duty_of_clear hperm hsettled.clear hsettled.newest
  rw [hsettled.done] at hduty
  exact ⟨rows, hread, hduty, hsame⟩

/-- From a settled store a run without refresh only looks. -/
theorem repeats_of_settled (hsettled : Settled r.job.ledger scripts version r.before)
    (hrefresh : r.job.config.refresh = false) (hfound : r.discovered = .ok scripts)
    (hne : scripts ≠ []) (hgrants : r.session.Grants r.view r.job.ledger r.job.timeout)
    (hcloses : ∀ state, (r.session.close state).1 = none) :
    r.trace.result = .ok ⟨scripts.length, some .unchanged, version, []⟩ ∧
      r.trace.sent.map (·.statement) = [r.job.ledger.listTables.withTimeout r.job.timeout,
        r.job.ledger.selectRows.withTimeout r.job.timeout] ∧
      r.after = r.before := by
  obtain ⟨tables, htables, hpresent, hlisted⟩ := r.keeps.listTables_of_present hgrants
    hsettled.readable.present r.job.ledger.bootstrapError
  rw [show r.view r.start = r.before from rfl] at hlisted
  obtain ⟨rows, hread, hduty, hsame⟩ := duty_of_settled (hlisted.symm ▸ hsettled) hgrants
  have hrun : r.trace = _ :=
    Job.trace_run_of_tables r.session hrefresh hfound hne htables hpresent
  simp only [Job.resume_of_duty r.session hread hduty, Job.dueSteps, Session.attempt] at hrun
  refine ⟨?_, ?_, ?_⟩
  · rw [hrun, hcloses]
    rfl
  · rw [hrun, r.session.ask_sent, r.session.ask_sent]
    rfl
  · rw [after, hrun]
    exact ((r.keeps.closed _).trans hsame).trans hlisted

/-- From a settled store a status finds nothing to report. -/
theorem status_of_settled (hsettled : Settled r.job.ledger scripts version r.before)
    (hfound : r.discovered = .ok scripts)
    (hgrants : r.session.Grants r.view r.job.ledger r.job.timeout)
    (hcloses : ∀ state, (r.session.close state).1 = none) :
    ∃ status, r.status.result = .ok status ∧ status.keyspacePresent = true ∧
      status.lastApplied = version ∧ status.pending = [] ∧ status.modified = [] := by
  obtain ⟨tables, htables, hpresent, hlisted⟩ := r.keeps.listTables_of_present hgrants
    hsettled.readable.present (MigrationError.ledgerRead r.job.ledger.qualified)
  rw [show r.view r.start = r.before from rfl] at hlisted
  obtain ⟨rows, hread, hduty, -⟩ := duty_of_settled (hlisted.symm ▸ hsettled) hgrants
  obtain ⟨status, hsurvey, hversion, hpending, hmodified⟩ := Job.survey_of_duty hduty
  refine ⟨status, ?_, Job.present_of_survey hsurvey, hversion, hpending, hmodified⟩
  have hstatus := status_eq hfound
  simp only [Job.inspectScripts_of_tables _ htables hpresent, hread, hcloses] at hstatus
  rw [hstatus]
  exact hsurvey

/-- What follows a run that has succeeded with a report: a run without refresh and a status. -/
structure Repeated (scripts : List Script) (report : Report) (second : Run fate)
    (look : Run fate') : Prop where
  /-- The run has nothing to apply. -/
  succeeds : second.trace.result =
    .ok ⟨scripts.length, some .unchanged, report.currentVersion, []⟩
  /-- It sends the two queries only. -/
  queries : second.trace.sent.map (·.statement) =
    [second.job.ledger.listTables.withTimeout second.job.timeout,
      second.job.ledger.selectRows.withTimeout second.job.timeout]
  harmless : second.after = second.before
  /-- The status finds the keyspace up to date. -/
  status : ∃ status, look.status.result = .ok status ∧ status.keyspacePresent = true ∧
    status.lastApplied = report.currentVersion ∧ status.pending = [] ∧ status.modified = []

/-- **Idempotence.** After a run that has succeeded, whatever store it came from, a further run
without refresh has nothing to do, and a status has nothing to report. -/
theorem idempotent {fate'' : FailedWrite} {first : Run fate} {second : Run fate'}
    {look : Run fate''} (hleaves : first.LeavesLedger) (hdistinct : first.listing.Distinct)
    (hfound : first.discovered = .ok scripts) (hne : scripts ≠ []) {report : Report}
    (hok : first.trace.result = .ok report) (hsecond : Follows second first)
    (hrefresh : second.job.config.refresh = false) (hlook : Follows look first) :
    Repeated scripts report second look := by
  -- what the first run leaves is all that the others depend on
  have hsettled := settled_after hleaves hdistinct hfound hne hok
  have hrun := hsettled
  rw [← hsecond.ledger, ← hsecond.before] at hrun
  rw [← hlook.ledger, ← hlook.before] at hsettled
  obtain ⟨hsucceeds, hqueries, hharmless⟩ := repeats_of_settled hrun hrefresh
    (hsecond.discovered.trans hfound) hne hsecond.grants hsecond.closes
  have hstatus := status_of_settled hsettled (hlook.discovered.trans hfound) hlook.grants
    hlook.closes
  exact ⟨hsucceeds, hqueries, hharmless, hstatus⟩

/-- A run from an empty store, with a run and a status behind it. -/
theorem idempotent_sample :
    let first := Sample.run (fun _ => false) Store.empty
    let next := Sample.run (fun _ => false) first.after
    first.LeavesLedger ∧ first.listing.Distinct ∧ first.discovered = .ok Sample.scripts ∧
      Sample.scripts ≠ [] ∧ Follows next first ∧ next.job.config.refresh = false ∧
      ∃ report, first.trace.result = .ok report ∧ Repeated Sample.scripts report next next := by
  intro first next
  have hleaves : first.LeavesLedger := Sample.leavesLedger _ _
  have hfound : first.discovered = .ok Sample.scripts := Sample.discovered _ _
  have hne : Sample.scripts ≠ [] := List.cons_ne_nil _ _
  have hok : first.trace.result = .ok ⟨2, some .created, 0, Sample.scripts.map
      Sample.job.ledger.recordOf⟩ := by
    rw [Sample.trace_run]
    decide +kernel
  have hnext : Follows next first := ⟨rfl, rfl, rfl, rfl, rfl, Sample.grants _, fun _ => rfl⟩
  exact ⟨hleaves, Sample.distinct, hfound, hne, hnext, rfl, _, hok,
    idempotent hleaves Sample.distinct hfound hne hok hnext rfl hnext⟩

end Run

end SchemaMigration
