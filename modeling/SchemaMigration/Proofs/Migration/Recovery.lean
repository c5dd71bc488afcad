import SchemaMigration.Proofs.Migration.History

/-!
# Runs after runs that were cut short

A bootstrap may be cut short between the creation of the keyspace and that of the ledger. The tables
of a keyspace tell whether it exists, so the next run takes the keyspace for absent, and fails in
creating it. No later run gets any further.

* `Run.standing_after`: a run that is not cut short leaves the keyspace absent or with its ledger.
* `Run.recovery_of_history`: which runs a further run recovers from.
-/

namespace SchemaMigration

namespace Run

variable {fate : FailedWrite}

/-- The bootstrap of the run has been cut short. -/
def CutShort (r : Run fate) : Prop :=
  r.Begins ∧ r.job.ledger.CutShort r.job.timeout r.job.config.replication r.bootstrap.sent

/-- The run has a ledger after its bootstrap and leaves none, so its scripts have removed it. -/
def RemovesLedger (r : Run fate) : Prop :=
  r.Begins ∧ r.job.ledger.Present (r.view r.bootstrap.state) ∧ ¬ r.job.ledger.Present r.after

/-- The run fails with an error about the bootstrap. -/
def FailsInBootstrap (r : Run fate) : Prop :=
  ∃ reason, r.trace.result = .error (.bootstrap r.job.ledger.keyspace.text reason)

variable {r : Run fate} {l : Ledger}

/-! ## One run -/

/-- A run over a keyspace without tables fails in its bootstrap. -/
theorem fails_of_bare (hbegins : r.Begins) (hbare : r.job.ledger.tables? r.before = some []) :
    r.FailsInBootstrap := by
  obtain ⟨scripts, hfound, hne⟩ := hbegins
  obtain ⟨⟨reason, hfails⟩, -, -⟩ := Ledger.bootstrap_of_bare r.keeps
    r.job.config.replication r.job.config.refresh hbare
  rcases bootstrap_cases hfound hne with ⟨error, herror, hresult, -⟩ | ⟨action, hpast⟩
  · refine ⟨reason, hresult.trans ?_⟩
    exact congrArg Except.error (Except.error.inj (herror.symm.trans hfails))
  · cases hpast.symm.trans hfails

/-- No run adds a table to a keyspace without tables. -/
theorem bare_after (hbare : r.job.ledger.tables? r.before = some []) :
    r.job.ledger.tables? r.after = some [] := by
  obtain ⟨⟨reason, hfails⟩, -, hstays⟩ := Ledger.bootstrap_of_bare r.keeps
    r.job.config.replication r.job.config.refresh hbare
  rcases r.trace_cases with ⟨hsame, -⟩ | ⟨hsame, -⟩ | ⟨scripts, hfound, hne⟩
  · rw [hsame]
    exact hbare
  · rw [hsame]
    exact hbare
  · rcases bootstrap_cases hfound hne with ⟨error, -, -, hafter⟩ | ⟨action, hpast⟩
    · rw [hafter]
      exact hstays
    · cases hpast.symm.trans hfails

/-- A run that is cut short leaves the keyspace without tables. -/
theorem bare_of_cutShort (h : r.CutShort) : r.job.ledger.tables? r.after = some [] := by
  obtain ⟨⟨scripts, hfound, hne⟩, hcut⟩ := h
  have hpast : ∀ action, r.bootstrap.result ≠ .ok action := by
    intro action hok
    exact Ledger.not_cutShort_of_ok hok hcut
  rcases bootstrap_cases hfound hne with ⟨error, -, -, hafter⟩ | ⟨action, hok⟩
  · rw [hafter]
    rcases r.bootstrap_ending with ⟨hok, -, -, -⟩ | ⟨action, hok, -, -, -⟩ | ⟨reason, -, hnot, -⟩ |
      ⟨reason, -, -, hbare⟩
    · exact absurd hok (hpast _)
    · exact absurd hok (hpast _)
    · exact absurd hcut hnot
    · exact hbare
  · exact absurd hok (hpast action)

/-- A run that is not cut short leaves the keyspace absent or with its ledger, unless its scripts
remove that. -/
theorem standing_after (hstanding : r.job.ledger.Standing r.before) (hcut : ¬ r.CutShort)
    (hkept : ¬ r.RemovesLedger) : r.job.ledger.Standing r.after := by
  rcases r.trace_cases with ⟨hsame, -⟩ | ⟨hsame, -⟩ | ⟨scripts, hfound, hne⟩
  · rw [hsame]
    exact hstanding
  · rw [hsame]
    exact hstanding
  · rcases bootstrap_cases hfound hne with ⟨error, hfails, -, hafter⟩ | ⟨action, hpast⟩
    · rw [hafter]
      rcases r.bootstrap_ending with ⟨hok, -, -, -⟩ | ⟨action, hok, -, -, -⟩ |
        ⟨reason, -, -, hstore⟩ | ⟨reason, -, hshort, -⟩
      · cases hfails.symm.trans hok
      · cases hfails.symm.trans hok
      · -- the keyspace may have been dropped before the failure
        rcases hstore with hsame | hdropped
        · exact hsame.symm ▸ hstanding
        · exact .inl hdropped
      · exact absurd ⟨⟨scripts, hfound, hne⟩, hshort⟩ hcut
    · right
      by_contra hnot
      exact hkept ⟨⟨scripts, hfound, hne⟩, present_bootstrap hstanding hpast, hnot⟩

/-- Behind its bootstrap a run fails with other errors. -/
theorem not_fails_of_past (hbegins : r.Begins) {action : KeyspaceAction}
    (hpast : r.bootstrap.result = .ok action) : ¬ r.FailsInBootstrap := by
  rintro ⟨reason, hfails⟩
  obtain ⟨scripts, hfound, hne⟩ := hbegins
  obtain ⟨-, -, close, hresult⟩ := trace_of_bootstrap hfound hne hpast
  rw [hfails] at hresult
  rcases hrest : (r.job.resume r.session scripts action r.bootstrap.state).result with
    error | report
  · -- neither the ledger nor a script is to blame for a failed bootstrap
    have hblame : MigrationError.bootstrap r.job.ledger.keyspace.text reason = error := by
      rw [hrest] at hresult
      cases close <;> exact Except.error.inj hresult
    rcases Job.error_of_resume hrest with habout | hscript
    · exact (hblame ▸ habout : MigrationError.AboutLedger (.bootstrap _ _)).elim
    · exact (hblame ▸ hscript : MigrationError.AtScript (.bootstrap _ _)).elim
  · rw [hrest] at hresult
    cases close <;> cases hresult

/-- In a session without faults of its own, only a keyspace without tables makes the bootstrap
fail. -/
theorem fails_iff_bare (hgrants : r.session.Grants r.view r.job.ledger r.job.timeout)
    (hbegins : r.Begins) : r.FailsInBootstrap ↔ r.job.ledger.tables? r.before = some [] := by
  constructor
  · intro hfails
    by_contra hnot
    obtain ⟨action, hpast⟩ := Ledger.bootstrap_of_grants r.keeps hgrants
      r.job.config.replication r.job.config.refresh hnot
    exact not_fails_of_past hbegins hpast hfails
  · exact fails_of_bare hbegins

/-! ## Many runs -/

namespace History

variable {start s : Store} {runs : List (Run fate)}

/-- Once a bootstrap has been cut short, the keyspace stays without tables. -/
theorem bare_of_cutShort (h : History l start runs s) (hcut : ∃ earlier ∈ runs, earlier.CutShort) :
    l.tables? s = some [] := by
  induction h with
  | none =>
      obtain ⟨earlier, hmem, -⟩ := hcut
      cases hmem
  | run r hfor before ih =>
      rw [← hfor.tables?_eq]
      obtain ⟨earlier, hmem, hshort⟩ := hcut
      rcases List.mem_cons.mp hmem with rfl | hmem
      · exact Run.bare_of_cutShort hshort
      · -- an earlier one was cut short, and this run has changed nothing about it
        have hbefore := ih ⟨earlier, hmem, hshort⟩
        rw [← hfor.tables?_eq] at hbefore
        exact bare_after hbefore

/-- As long as no bootstrap has been cut short and no scripts have removed the ledger, the keyspace
is absent or has its ledger. -/
theorem standing (h : History l start runs s) (hstart : l.tables? start = .none)
    (hcut : ∀ earlier ∈ runs, ¬ earlier.CutShort)
    (hkept : ∀ earlier ∈ runs, ¬ earlier.RemovesLedger) : l.Standing s := by
  induction h with
  | none => exact .inl hstart
  | run r hfor before ih =>
      obtain ⟨hthis, hothers⟩ := List.forall_mem_cons.mp hcut
      obtain ⟨hthis', hothers'⟩ := List.forall_mem_cons.mp hkept
      have hbefore := ih hothers hothers'
      rw [← hfor.standing_iff] at hbefore ⊢
      exact standing_after hbefore hthis hthis'

end History

end Run

namespace Sample

/-- The store with the keyspace and nothing in it. -/
def bare : Store :=
  ⟨[("orders", [])]⟩

/-- A session that refuses to create the ledger cuts the bootstrap short. -/
theorem cutting :
    let r := run (fun s => s.text = job.ledger.createTable.text) Store.empty
    r.after = bare := by
  intro r
  unfold Run.after
  rw [trace_run]
  decide +kernel

end Sample

namespace Run

variable {fate : FailedWrite} {r : Run fate} {l : Ledger}

/-- What a run makes of the runs before it, latest first. -/
structure Recovery (l : Ledger) (runs : List (Run fate)) (r : Run fate) : Prop where
  /-- A bootstrap that has been cut short makes all later ones fail. -/
  fails_of_cutShort : (∃ earlier ∈ runs, earlier.CutShort) → r.FailsInBootstrap
  /-- Nothing else does, as long as no scripts have removed the ledger. -/
  fails_iff_cutShort : (∀ earlier ∈ runs, ¬ earlier.RemovesLedger) →
    (r.FailsInBootstrap ↔ ∃ earlier ∈ runs, earlier.CutShort)
  /-- Then the bootstrap ends with the keyspace and its ledger. -/
  present : (∀ earlier ∈ runs, ¬ earlier.RemovesLedger) →
    (∀ earlier ∈ runs, ¬ earlier.CutShort) →
      ∃ action, r.bootstrap.result = .ok action ∧ l.Present (r.view r.bootstrap.state)
  /-- In any case it is a keyspace without tables that makes the bootstrap fail. -/
  fails_iff_bare : r.FailsInBootstrap ↔ l.tables? r.before = some []

/-- **Recovery.** After any runs since the keyspace was absent, which may fail anywhere, a run
without faults of its own session fails in its bootstrap exactly if one of them was cut short
between the creation of the keyspace and that of the ledger. -/
theorem recovery_of_history {start : Store} {runs : List (Run fate)}
    (habsent : l.tables? start = .none) (hhistory : History l start runs r.before) (hfor : r.For l)
    (hgrants : r.session.Grants r.view r.job.ledger r.job.timeout) {scripts : List Script}
    (hfound : r.discovered = .ok scripts) (hne : scripts ≠ []) : Recovery l runs r := by
  have hbegins : r.Begins := ⟨scripts, hfound, hne⟩
  have hfails := fails_iff_bare hgrants hbegins
  rw [hfor.tables?_eq] at hfails
  refine ⟨?_, ?_, ?_, hfails⟩
  · intro hcut
    exact hfails.mpr (hhistory.bare_of_cutShort hcut)
  · intro hkept
    rw [hfails]
    constructor
    · intro hbare
      -- otherwise the keyspace would be absent or have its ledger
      by_contra hnone
      have hcut : ∀ earlier ∈ runs, ¬ earlier.CutShort := by
        intro earlier hmem hshort
        exact hnone ⟨earlier, hmem, hshort⟩
      exact (hhistory.standing habsent hcut hkept).tables?_ne hbare
    · exact hhistory.bare_of_cutShort
  · intro hkept hcut
    have hstanding := hhistory.standing habsent hcut hkept
    have hnot := hstanding.tables?_ne
    rw [← hfor.tables?_eq] at hnot
    obtain ⟨action, hpast⟩ := Ledger.bootstrap_of_grants r.keeps hgrants
      r.job.config.replication r.job.config.refresh hnot
    refine ⟨action, hpast, ?_⟩
    rw [← hfor.present_iff]
    exact present_bootstrap ((hfor.standing_iff _).mpr hstanding) hpast

/-- A run after one whose session has refused to create the ledger. -/
theorem recovery_of_history_sample :
    let first := Sample.run (fun s => s.text = Sample.job.ledger.createTable.text) Store.empty
    let second := Sample.run (fun _ => false) Sample.bare
    Sample.job.ledger.tables? Store.empty = .none ∧
      History Sample.job.ledger Store.empty [first] second.before ∧
      second.For Sample.job.ledger ∧
      second.session.Grants second.view second.job.ledger second.job.timeout ∧
      second.discovered = .ok Sample.scripts ∧ Sample.scripts ≠ [] ∧
      Recovery Sample.job.ledger [first] second := by
  intro first second
  have habsent : Sample.job.ledger.tables? Store.empty = .none := rfl
  have hafter : History Sample.job.ledger Store.empty [first] first.after :=
    .run first (Sample.forLedger _ _) .none
  have hhistory : History Sample.job.ledger Store.empty [first] second.before := by
    rw [Sample.cutting] at hafter
    exact hafter
  have hfor : second.For Sample.job.ledger := Sample.forLedger _ _
  have hgrants := Sample.grants Sample.bare
  have hfound : second.discovered = .ok Sample.scripts := Sample.discovered _ _
  have hne : Sample.scripts ≠ [] := List.cons_ne_nil _ _
  exact ⟨habsent, hhistory, hfor, hgrants, hfound, hne,
    recovery_of_history habsent hhistory hfor hgrants hfound hne⟩

/-- A run without faults of its own session may fail in its bootstrap. -/
theorem exists_bootstrap_not_recovered :
    ¬ ∀ (l : Ledger) (start : Store) (runs : List (Run .undone)) (r : Run .undone),
      l.tables? start = .none → History l start runs r.before → r.For l →
      r.session.Grants r.view r.job.ledger r.job.timeout → r.Begins → ¬ r.FailsInBootstrap := by
  intro hall
  have hafter : History Sample.job.ledger Store.empty _ _ :=
    .run (Sample.run (fun s => s.text = Sample.job.ledger.createTable.text) Store.empty)
      (Sample.forLedger _ _) .none
  rw [Sample.cutting] at hafter
  have hbegins : (Sample.run (fun _ => false) Sample.bare).Begins :=
    ⟨_, Sample.discovered _ _, List.cons_ne_nil _ _⟩
  exact hall Sample.job.ledger Store.empty _ (Sample.run (fun _ => false) Sample.bare) rfl hafter
    (Sample.forLedger _ _) (Sample.grants _) hbegins (fails_of_bare hbegins rfl)

end Run

end SchemaMigration
