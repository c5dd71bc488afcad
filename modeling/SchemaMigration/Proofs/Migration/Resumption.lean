import Mathlib.Data.List.Nodup
import SchemaMigration.Proofs.Discovery
import SchemaMigration.Proofs.Migration.Run

/-!
# Resuming after a failed run

A run goes on behind the newest version in the ledger. A run that has failed at a script may have
left a row of just that version there, for scripts may share versions; then the next run passes over
the script that failed.

* `Run.Over`: a run for a ledger over some scripts.
* `Run.Over.rows_of_absent`: what a run leaves that succeeds from an absent keyspace.
* `pendingAfter_recorded`: what is left to do when the first scripts have been recorded.
* `Run.resumption_of_failed`: when a second run makes up for the failure of the first.
-/

namespace SchemaMigration

/-! ## What is left to do -/

theorem newestRow_lt_iff {rows : List StoredRow} {bound : Nat} :
    newestRow rows < bound ↔ 0 < bound ∧ ∀ row ∈ rows, row.version < bound := by
  cases bound with
  | zero =>
      have hnonneg := newestRow_nonneg rows
      constructor
      · intro hlt
        omega
      · intro h
        exact absurd h.1 (Nat.lt_irrefl 0)
  | succ bound =>
      have hpred : ∀ a : Int, a < (bound + 1 : Nat) ↔ a ≤ bound := by omega
      simp only [hpred, newestRow_le_iff, Nat.succ_pos, true_and]

/-- From an empty ledger every script is due that has a version of its own, above zero. -/
theorem pendingAfter_nil (scripts : List Script) :
    pendingAfter [] scripts = scripts.filter fun s => 1 ≤ s.version := by
  unfold pendingAfter
  congr 1
  funext s
  have hiff := @newestRow_lt_iff [] s.version
  simp [hiff, Nat.succ_le_iff]

/-- When the first of the scripts that were due have been recorded, those of the others are left
that are newer than each of them. -/
theorem pendingAfter_recorded {l : Ledger} {scripts recorded rest : List Script}
    (hdue : pendingAfter [] scripts = recorded ++ rest) :
    pendingAfter (recorded.map l.storedRow) scripts =
      rest.filter fun s => ∀ r ∈ recorded, r.version < s.version := by
  have hnewer : ∀ s : Script, newestRow (recorded.map l.storedRow) < s.version ↔
      0 < s.version ∧ ∀ r ∈ recorded, r.version < s.version := by
    intro s
    rw [newestRow_lt_iff, List.forall_mem_map]
    simp [Ledger.storedRow]
  -- the scripts that are newer are among those that were due from the start
  have htwice : pendingAfter (recorded.map l.storedRow) scripts =
      (pendingAfter [] scripts).filter fun s => ∀ r ∈ recorded, r.version < s.version := by
    rw [pendingAfter_nil, List.filter_filter]
    unfold pendingAfter
    congr 1
    funext s
    simp [hnewer, Nat.succ_le_iff, Bool.and_comm]
  have hrecorded : (recorded.filter fun s => ∀ r ∈ recorded, r.version < s.version) = [] := by
    rw [List.filter_eq_nil_iff]
    intro s hs hall
    exact Nat.lt_irrefl _ (of_decide_eq_true hall s hs)
  rw [htwice, hdue, List.filter_append, hrecorded, List.nil_append]

/-- Nothing is passed over exactly if no recorded script has the version at which a run goes on. -/
theorem filter_newer_eq_self_iff {recorded rest : List Script} {next : Script}
    (hsorted : (recorded ++ next :: rest).Pairwise fun a b => a.version ≤ b.version) :
    ((next :: rest).filter fun s => ∀ r ∈ recorded, r.version < s.version) = next :: rest ↔
      ∀ r ∈ recorded, r.version ≠ next.version := by
  obtain ⟨-, hrest, hacross⟩ := List.pairwise_append.mp hsorted
  rw [List.filter_eq_self]
  constructor
  · intro hall r hr
    have hnext := of_decide_eq_true (hall next (List.mem_cons_self ..)) r hr
    exact Nat.ne_of_lt hnext
  · intro hdiffer s hs
    apply decide_eq_true
    intro r hr
    -- versions do not decrease, so those after the next one are newer too
    have hle := hacross r hr next (List.mem_cons_self ..)
    have hlt : r.version < next.version := Nat.lt_of_le_of_ne hle (hdiffer r hr)
    rcases List.mem_cons.mp hs with rfl | hs
    · exact hlt
    · exact Nat.lt_of_lt_of_le hlt ((List.pairwise_cons.mp hrest).1 s hs)

/-- Every row is there exactly if no recorded script has the version at which a run goes on. -/
theorem stored_iff_version_not_recorded {l : Ledger} {scripts recorded rest : List Script}
    {failed : Script} (hdue : pendingAfter [] scripts = recorded ++ failed :: rest)
    (hsorted : (recorded ++ failed :: rest).Pairwise fun a b => a.version ≤ b.version)
    (hnames : (scripts.map (·.name)).Nodup) :
    (∀ s ∈ scripts, 1 ≤ s.version → l.storedRow s ∈ (recorded ++ (failed :: rest).filter fun s =>
      ∀ r ∈ recorded, r.version < s.version).map l.storedRow) ↔
      ∀ r ∈ recorded, r.version ≠ failed.version := by
  have hmem : ∀ s, s ∈ recorded ++ failed :: rest ↔ s ∈ scripts ∧ 1 ≤ s.version := by
    intro s
    rw [← hdue, pendingAfter_nil, List.mem_filter, decide_eq_true_iff]
  constructor
  · intro hall r hr heq
    -- if a recorded script has the version, the row of the failed one must come from elsewhere
    have hfailed := (hmem failed).mp (List.mem_append_right _ (List.mem_cons_self ..))
    obtain ⟨s, hs, hrow⟩ := List.mem_map.mp (hall failed hfailed.1 hfailed.2)
    have hname : s.name = failed.name := congrArg StoredRow.name hrow
    have hlisted : s ∈ recorded ++ failed :: rest :=
      (List.Sublist.append_left List.filter_sublist recorded).subset hs
    have hsame : s = failed :=
      List.inj_on_of_nodup_map hnames ((hmem s).mp hlisted).1 hfailed.1 hname
    rw [hsame] at hs
    rcases List.mem_append.mp hs with hs | hs
    · -- a script is in the directory once
      have hnodup : (recorded ++ failed :: rest).Nodup := by
        rw [← hdue]
        exact (List.Nodup.of_map _ hnames).filter _
      exact List.disjoint_of_nodup_append hnodup hs (List.mem_cons_self ..)
    · have hnewer := of_decide_eq_true (List.mem_filter.mp hs).2 r hr
      exact absurd heq (Nat.ne_of_lt hnewer)
  · intro hdiffer s hs hversion
    rw [(filter_newer_eq_self_iff hsorted).mpr hdiffer]
    exact List.mem_map_of_mem ((hmem s).mpr ⟨hs, hversion⟩)

/-! ## Two runs -/

namespace Run

variable {fate : FailedWrite}

/-- A run for a ledger over some scripts, which leave the ledger alone, without a refresh. -/
structure Over (r : Run fate) (l : Ledger) (scripts : List Script) : Prop where
  ledger : r.job.ledger = l
  discovered : r.discovered = .ok scripts
  refresh : r.job.config.refresh = false
  leaves : r.LeavesLedger

theorem base_of_absent {r : Run fate} {action : KeyspaceAction}
    (habsent : r.job.ledger.tables? r.before = none) (hpast : r.bootstrap.result = .ok action) :
    r.base action = [] := by
  rcases past_cases hpast with ⟨-, -, htables, -⟩ | ⟨haction, -, -⟩
  · rw [habsent] at htables
    exact absurd rfl htables
  · exact if_neg haction

theorem base_of_present {r : Run fate} {action : KeyspaceAction}
    (hpresent : r.job.ledger.Present r.before) (hrefresh : r.job.config.refresh = false)
    (hpast : r.bootstrap.result = .ok action) :
    r.base action = r.job.ledger.storedRows r.before := by
  rcases past_cases hpast with ⟨haction, -, -, -⟩ | ⟨-, hcause, -⟩
  · exact if_pos haction
  · rcases hcause with hcause | hcause
    · rw [hrefresh] at hcause
      cases hcause
    · exact absurd hcause hpresent.tables_ne_nil

namespace Over

variable {l : Ledger} {scripts : List Script}

theorem spares {r : Run fate} (h : r.Over l scripts) : ∀ script ∈ scripts,
    r.session.Spares r.view r.job.timeout r.job.ledger.Present script := by
  intro script hscript
  exact (h.leaves scripts h.discovered script hscript).spares fun stored => ∃ t, stored = some t

/-- A run that succeeds has found nothing, or has recorded all that was due. -/
theorem rows_of_ok {r : Run fate} (h : r.Over l scripts) (hne : scripts ≠ []) {report : Report}
    (hok : r.trace.result = .ok report) : ∃ action, r.bootstrap.result = .ok action ∧
      l.storedRows r.after = r.base action ++
        (pendingAfter (r.base action) scripts).map l.storedRow := by
  obtain ⟨rfl, hfound, -, hleaves⟩ := h
  rcases bootstrap_cases hfound hne with ⟨error, -, herror, -⟩ | ⟨action, hpast⟩
  · cases hok.symm.trans herror
  · refine ⟨action, hpast, ?_⟩
    rcases outcome_cases hleaves hfound hne hpast with ⟨error, herror, -⟩ |
      ⟨version, close, -, -, hrows⟩ | ⟨recorded, failed, rest, -, hstops, -⟩
    · cases hok.symm.trans herror
    · exact hrows
    · obtain ⟨step, -, front, e, -, -, -, herror⟩ := hstops
      cases hok.symm.trans herror

/-- A run that succeeds from an absent keyspace records every script above version zero. -/
theorem rows_of_absent {r : Run fate} (h : r.Over l scripts) (hne : scripts ≠ [])
    (habsent : l.tables? r.before = none) {report : Report} (hok : r.trace.result = .ok report) :
    l.storedRows r.after = (pendingAfter [] scripts).map l.storedRow := by
  obtain ⟨action, hpast, hrows⟩ := h.rows_of_ok hne hok
  obtain ⟨rfl, -, -, -⟩ := h
  rw [base_of_absent habsent hpast] at hrows
  exact hrows

/-- A run that succeeds in a ledger adds what is due after its rows. -/
theorem rows_of_present {r : Run fate} (h : r.Over l scripts) (hne : scripts ≠ [])
    (hpresent : l.Present r.before) {report : Report} (hok : r.trace.result = .ok report) :
    l.storedRows r.after = l.storedRows r.before ++
      (pendingAfter (l.storedRows r.before) scripts).map l.storedRow := by
  obtain ⟨action, hpast, hrows⟩ := h.rows_of_ok hne hok
  obtain ⟨rfl, -, hrefresh, -⟩ := h
  rw [base_of_present hpresent hrefresh hpast] at hrows
  exact hrows

/-- A run from an absent keyspace that stops at a script has recorded the scripts before it. -/
theorem stopped_of_absent {r : Run .undone} (h : r.Over l scripts)
    (habsent : l.tables? r.before = none) {error : MigrationError}
    (hfail : r.trace.result = .error error) (hscript : error.AtScript) :
    scripts ≠ [] ∧ l.Present r.after ∧ ∃ recorded failed rest,
      pendingAfter [] scripts = recorded ++ failed :: rest ∧
      r.trace.StopsAt r.job.timeout (r.job.scriptSteps recorded.length failed) ∧
      l.storedRows r.after = recorded.map l.storedRow := by
  have hspares := h.spares
  obtain ⟨rfl, hfound, -, hleaves⟩ := h
  have hclose : ∀ {report close}, r.trace.result ≠ Job.closed (.ok report) close := by
    intro report close hresult
    cases close with
    | none => cases hfail.symm.trans hresult
    | some reason =>
        rw [Except.error.inj (hfail.symm.trans hresult)] at hscript
        exact hscript
  have hne : scripts ≠ [] := by
    rintro rfl
    rcases r.trace_cases with ⟨-, -, close, hnone⟩ | ⟨-, other, hnone, -⟩ | ⟨found, hfound', hne⟩
    · exact hclose hnone
    · cases hfound.symm.trans hnone
    · exact hne (Except.ok.inj (hfound'.symm.trans hfound))
  rcases bootstrap_cases hfound hne with ⟨other, hother, hresult, -⟩ | ⟨action, hpast⟩
  · -- the error would be one about the bootstrap
    obtain ⟨reason, hreason⟩ := Ledger.error_of_bootstrap r.keeps hother
    rw [Except.error.inj (hfail.symm.trans hresult), hreason] at hscript
    exact hscript.elim
  · -- the bootstrap has made a new ledger, so every script above version zero was due
    have hpresent := present_bootstrap (.inl habsent) hpast
    refine ⟨hne, present_after hspares hfound hne hpast hpresent, ?_⟩
    rcases outcome_cases hleaves hfound hne hpast with ⟨other, hresult, habout, -⟩ |
      ⟨version, close, -, hresult, -⟩ | ⟨recorded, failed, rest, hdue, hstops, hrows⟩
    · rw [Except.error.inj (hfail.symm.trans hresult)] at hscript
      exact absurd habout hscript.not_aboutLedger
    · exact absurd hresult hclose
    · rw [base_of_absent habsent hpast] at hdue hrows
      refine ⟨recorded, failed, rest, hdue, hstops, ?_⟩
      rcases hrows with hrows | ⟨hfate, -⟩
      · exact hrows
      · cases hfate

end Over

end Run

namespace Sample

theorem runs_over (refuses : Statement → Bool) (start : Store) :
    (run refuses start).Over job.ledger scripts where
  ledger := rfl
  discovered := discovered refuses start
  refresh := rfl
  leaves := leavesLedger refuses start

/-- The store with a row for the first script. -/
def halfway : Store :=
  ⟨[("orders", [("migrated_cql", ⟨false, [⟨1, "V001__a.cql", none⟩]⟩)])]⟩

theorem failing :
    let r := run (fun s => s.text = "SELECT 2") Store.empty
    r.after = halfway ∧
      r.trace.result = .error (.script "V001__b.cql" (.execution "SELECT 2" "refused")) := by
  intro r
  unfold Run.after
  rw [trace_run]
  decide +kernel

theorem resuming :
    let r := run (fun _ => false) halfway
    r.after = halfway ∧ r.trace.result = .ok ⟨2, some .unchanged, 1, []⟩ := by
  intro r
  unfold Run.after
  rw [trace_run]
  decide +kernel

end Sample

namespace Run

variable {fate : FailedWrite}

/-- What two runs have done, of which the first has recorded some scripts and failed at the next,
and the second has succeeded on what the first has left. -/
structure Resumption (l : Ledger) (scripts : List Script) (first second : Run fate)
    (recorded : List Script) (failed : Script) (rest : List Script) : Prop where
  /-- Every script above version zero is due. -/
  due : (scripts.filter fun s => 1 ≤ s.version) = recorded ++ failed :: rest
  /-- The first run stops at one of them. -/
  stopped : first.trace.StopsAt first.job.timeout (first.job.scriptSteps recorded.length failed)
  /-- It has recorded those before. -/
  halfway : l.storedRows first.after = recorded.map l.storedRow
  /-- The second run adds those that are newer than each recorded one. -/
  resumed : l.storedRows second.after = (recorded ++ (failed :: rest).filter fun s =>
    ∀ r ∈ recorded, r.version < s.version).map l.storedRow
  /-- This is what an uninterrupted run leaves exactly if no recorded script has the version of the
  one that failed. -/
  as_uninterrupted : ∀ whole : Run .undone, whole.Over l scripts → l.tables? whole.before = none →
    ∀ report, whole.trace.result = .ok report →
      (l.storedRows second.after = l.storedRows whole.after ↔
        ∀ r ∈ recorded, r.version ≠ failed.version)
  /-- Otherwise some script has no row. -/
  complete : (scripts.map (·.name)).Nodup →
    ((∀ s ∈ scripts, 1 ≤ s.version → l.storedRow s ∈ l.storedRows second.after) ↔
      ∀ r ∈ recorded, r.version ≠ failed.version)

/-- **Resuming after a failed run.** When a run from an absent keyspace fails at a script, and the
next run succeeds, no script is lost exactly if the first run has not recorded a script of the same
version. -/
theorem resumption_of_failed {l : Ledger} {scripts : List Script} {first second : Run .undone}
    (hfirst : first.Over l scripts) (hsecond : second.Over l scripts)
    (habsent : l.tables? first.before = none) (hnext : second.before = first.after)
    {error : MigrationError} (hfail : first.trace.result = .error error) (hscript : error.AtScript)
    {report : Report} (hok : second.trace.result = .ok report) :
    ∃ recorded failed rest, Resumption l scripts first second recorded failed rest := by
  obtain ⟨hne, hpresent, recorded, failed, rest, hdue, hstops, hrows⟩ :=
    hfirst.stopped_of_absent habsent hfail hscript
  have hsorted : (recorded ++ failed :: rest).Pairwise fun a b => a.version ≤ b.version := by
    rw [← hdue]
    exact (sorted_of_discover hfirst.discovered).filter _
  have hresumed : l.storedRows second.after = (recorded ++ (failed :: rest).filter fun s =>
      ∀ r ∈ recorded, r.version < s.version).map l.storedRow := by
    have hbefore := hrows
    rw [← hnext] at hpresent hbefore
    rw [hsecond.rows_of_present hne hpresent hok, hbefore, pendingAfter_recorded hdue,
      List.map_append]
  refine ⟨recorded, failed, rest, ?_, hstops, hrows, hresumed, ?_, ?_⟩
  · rw [← pendingAfter_nil, hdue]
  · intro whole hwhole hclear other hother
    rw [hresumed, hwhole.rows_of_absent hne hclear hother, hdue,
      ← filter_newer_eq_self_iff hsorted]
    constructor
    · intro heq
      -- a part of the list that is as long is all of it
      have hlength := congrArg List.length heq
      simp only [List.map_append, List.length_append, List.length_map] at hlength
      exact List.filter_sublist.eq_of_length (by omega)
    · intro hall
      rw [hall]
  · intro hnames
    rw [hresumed]
    exact stored_iff_version_not_recorded hdue hsorted hnames

/-- A run that fails at the second of two scripts of one version, and the run after it. -/
theorem resumption_of_failed_sample :
    let first := Sample.run (fun s => s.text = "SELECT 2") Store.empty
    let second := Sample.run (fun _ => false) Sample.halfway
    first.Over Sample.job.ledger Sample.scripts ∧ second.Over Sample.job.ledger Sample.scripts ∧
      Sample.job.ledger.tables? first.before = none ∧ second.before = first.after ∧
      (∃ error, first.trace.result = .error error ∧ error.AtScript) ∧
      (∃ report, second.trace.result = .ok report) ∧
      ∃ recorded failed rest,
        Resumption Sample.job.ledger Sample.scripts first second recorded failed rest := by
  intro first second
  have hfirst : first.Over Sample.job.ledger Sample.scripts := Sample.runs_over _ _
  have hsecond : second.Over Sample.job.ledger Sample.scripts := Sample.runs_over _ _
  have habsent : Sample.job.ledger.tables? first.before = none := rfl
  obtain ⟨hhalfway, hfail⟩ := Sample.failing
  have hnext : second.before = first.after := hhalfway.symm
  have hok := Sample.resuming.2
  exact ⟨hfirst, hsecond, habsent, hnext, ⟨_, hfail, trivial⟩, ⟨_, hok⟩,
    resumption_of_failed hfirst hsecond habsent hnext hfail trivial hok⟩

/-- The second of two scripts of one version may be left without a row. -/
theorem exists_script_passed_over :
    ¬ ∀ (l : Ledger) (scripts : List Script) (first second : Run .undone),
      first.Over l scripts → second.Over l scripts → l.tables? first.before = none →
      second.before = first.after → ∀ error, first.trace.result = .error error → error.AtScript →
      ∀ report, second.trace.result = .ok report →
        ∀ s ∈ scripts, 1 ≤ s.version → l.storedRow s ∈ l.storedRows second.after := by
  intro hall
  obtain ⟨hhalfway, hfail⟩ := Sample.failing
  obtain ⟨hafter, hok⟩ := Sample.resuming
  have hrow := hall Sample.job.ledger Sample.scripts (Sample.run _ Store.empty)
    (Sample.run _ Sample.halfway) (Sample.runs_over _ _) (Sample.runs_over _ _) rfl hhalfway.symm
    _ hfail trivial _ hok Sample.scripts[1] (List.getElem_mem _) (by decide)
  rw [hafter] at hrow
  revert hrow
  decide

end Run

end SchemaMigration
