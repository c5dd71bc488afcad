import SchemaMigration.Proofs.Migration.History
import SchemaMigration.Proofs.Migration.Idempotence
import SchemaMigration.Proofs.Migration.Resumption

/-!
# The current version of a report

The report of a run computes the version that the ledger has come to from what the run has read and
applied. A run with scripts has read the ledger, so the version is right. A run that finds no scripts
ends before it looks at the ledger and reports version zero, whatever the ledger holds.

* `highestVersion`: the highest version in rows.
* `Run.highest_of_scripts`: the report of a run with scripts.
* `Run.report_of_idle`: the report of a run without.
* `Run.currentVersion_iff`: when the current version is the highest in the ledger.
* `Run.exists_version_lost`: it need not be.
-/

namespace SchemaMigration

/-- The highest version in rows, zero if there are none. Rows that no run has written may have
negative ones. -/
def highestVersion (rows : List StoredRow) : Int :=
  ((rows.map (·.version)).max?).getD 0

/-- Of rows whose versions are versions, the highest is the one that a run compares with. -/
theorem highestVersion_of_sound {rows : List StoredRow} (h : ∀ row ∈ rows, row.Sound) :
    highestVersion rows = newestRow rows := by
  unfold highestVersion
  rcases hmax : (rows.map (·.version)).max? with _ | highest
  · have hnil : rows = [] := List.map_eq_nil_iff.mp (List.max?_eq_none_iff.mp hmax)
    rw [hnil]
    rfl
  · obtain ⟨hmem, hle⟩ := List.max?_eq_some_iff.mp hmax
    obtain ⟨row, hrow, hversion⟩ := List.mem_map.mp hmem
    have hbelow : highest ≤ newestRow rows := hversion ▸ version_le_newestRow hrow
    have hnonneg : 0 ≤ highest := hversion ▸ (h row hrow).1
    have habove : newestRow rows ≤ highest.toNat := by
      rw [newestRow_le_iff]
      intro other hother
      rw [Int.toNat_of_nonneg hnonneg]
      exact hle other.version (List.mem_map_of_mem hother)
    rw [Int.toNat_of_nonneg hnonneg] at habove
    rw [hmax]
    exact Int.le_antisymm hbelow habove

namespace Run

variable {fate : FailedWrite} {r : Run fate} {scripts : List Script} {report : Report}

/-- A run with scripts that succeeds reports the highest version of the ledger that it leaves. -/
theorem highest_of_scripts (hleaves : r.LeavesLedger) (hfound : r.discovered = .ok scripts)
    (hne : scripts ≠ []) (hok : r.trace.result = .ok report) :
    (report.currentVersion : Int) = highestVersion (r.job.ledger.storedRows r.after) := by
  obtain ⟨action, -, -, hclear, hrows, hversion⟩ := exists_of_succeeded hleaves hfound hne hok
  rw [hversion, highestVersion_of_sound]
  -- the rows have been read, so they are records; what is added are records as well
  rw [hrows]
  apply Ledger.sound_append hclear.sound
  intro script hscript
  exact version_le_of_discover hfound script (List.mem_of_mem_filter hscript)

/-- A run that finds no scripts reports version zero and leaves the store alone. -/
theorem report_of_idle (hidle : r.discovered = .ok []) (hok : r.trace.result = .ok report) :
    report = .nothingFound ∧ r.after = r.before := by
  rcases r.trace_cases with ⟨hsame, -, close, hresult⟩ | ⟨-, error, herror, -⟩ |
    ⟨scripts, hfound, hne⟩
  · exact ⟨Except.ok.inj (Job.closed_eq_ok (hresult.symm.trans hok)).symm, hsame⟩
  · cases hidle.symm.trans herror
  · exact absurd (Except.ok.inj (hfound.symm.trans hidle)) hne

/-- **The current version.** The version that a run reports as current is the highest in the ledger
that it leaves, unless it has found no scripts and the ledger held some version already. -/
theorem currentVersion_iff (hleaves : r.LeavesLedger) (hok : r.trace.result = .ok report) :
    (report.currentVersion : Int) = highestVersion (r.job.ledger.storedRows r.after) ↔
      (r.discovered = .ok [] → highestVersion (r.job.ledger.storedRows r.before) = 0) := by
  by_cases hidle : r.discovered = .ok []
  · obtain ⟨rfl, hsame⟩ := report_of_idle hidle hok
    have hzero : (Report.nothingFound.currentVersion : Int) = 0 := rfl
    rw [hzero, hsame, eq_comm]
    simp only [hidle, forall_const]
  · -- a run that succeeds has found scripts
    have hwith : ∃ scripts, r.discovered = .ok scripts ∧ scripts ≠ [] := by
      rcases r.trace_cases with ⟨-, hnone, -⟩ | ⟨-, error, -, herror⟩ | hscripts
      · exact absurd hnone hidle
      · cases hok.symm.trans herror
      · exact hscripts
    obtain ⟨scripts, hfound, hne⟩ := hwith
    exact iff_of_true (highest_of_scripts hleaves hfound hne hok) fun hnone => absurd hnone hidle

/-- A run with scripts, from an empty store. -/
theorem currentVersion_iff_sample :
    let r := Sample.run (fun _ => false) Store.empty
    r.LeavesLedger ∧ ∃ report, r.trace.result = .ok report ∧
      ((report.currentVersion : Int) = highestVersion (r.job.ledger.storedRows r.after) ↔
        (r.discovered = .ok [] → highestVersion (r.job.ledger.storedRows r.before) = 0)) := by
  intro r
  have hleaves : r.LeavesLedger := Sample.leavesLedger _ _
  have hok : r.trace.result = .ok ⟨2, some .created, 0, Sample.scripts.map
      Sample.job.ledger.recordOf⟩ := by
    rw [Sample.trace_run]
    decide +kernel
  exact ⟨hleaves, _, hok, currentVersion_iff hleaves hok⟩

end Run

namespace Sample

/-- A run over a directory without scripts. -/
def idleRun (start : Store) : Run .undone :=
  { run (fun _ => false) start with listing := .entries [] }

theorem idleRun_discovered (start : Store) : (idleRun start).discovered = .ok [] := by
  have hcandidates : candidates .standard [] = [] := by simp [candidates]
  change (discover .standard "cql" (.entries [])).result = _
  simp only [discover, hcandidates]
  rfl

theorem idleRun_result (start : Store) : (idleRun start).trace.result = .ok .nothingFound := by
  have hidle : ¬ (idleRun start).Begins := by
    rintro ⟨scripts, hfound, hne⟩
    exact hne (Except.ok.inj (hfound.symm.trans (idleRun_discovered start)))
  rw [Run.result_of_not_begins hidle, idleRun_discovered]
  rfl

end Sample

namespace Run

/-- A run without scripts reports zero over a ledger with a script of version one. -/
theorem exists_version_lost :
    ¬ ∀ (r : Run .undone) (report : Report), r.LeavesLedger → r.trace.result = .ok report →
      (report.currentVersion : Int) = highestVersion (r.job.ledger.storedRows r.after) := by
  intro hall
  have hdiscovered := Sample.idleRun_discovered Sample.halfway
  have hresult := Sample.idleRun_result Sample.halfway
  have hleaves : (Sample.idleRun Sample.halfway).LeavesLedger := by
    intro scripts hfound script hscript
    cases hdiscovered.symm.trans hfound
    cases hscript
  have hversion := hall _ _ hleaves hresult
  rw [(report_of_idle hdiscovered hresult).2] at hversion
  revert hversion
  decide

end Run

end SchemaMigration
