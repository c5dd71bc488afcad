import SchemaMigration.Proofs.Migration.Run

/-!
# What a run adds to the ledger

A run that gets past its bootstrap adds the rows of pending scripts, the first ones up to the script
that fails. A row is added behind all statements of its script.

* `Run.Delta`: what a run has done to the ledger.
* `Run.ledger_delta`: every run that gets past its bootstrap has done that.
-/

namespace SchemaMigration

namespace Run

variable {fate : FailedWrite}

/-- Where a run stopped that has applied some of the scripts that were due, told by its error. -/
def StoppedBehind (r : Run fate) (due applied : List Script) : MigrationError → Prop
  | .script name _ | .ledgerWrite name _ _ =>
    ∃ script rest, due = applied ++ script :: rest ∧ script.name = name ∧
      r.trace.StopsAt r.job.timeout (r.job.scriptSteps applied.length script)
  | .close _ => applied = due
  | _ => applied = []

/-- What a run has done to the ledger, for the rows at the start of the scripts, the scripts of the
directory, and those that have been applied. -/
structure Delta (r : Run fate) (base : List StoredRow) (scripts applied : List Script) : Prop where
  /-- The first pending scripts have been applied. -/
  selected : applied <+: pendingAfter base scripts
  /-- Their rows have been added in this order. -/
  rows : r.job.ledger.storedRows r.after = base ++ applied.map r.job.ledger.storedRow
  /-- After every statement behind the bootstrap, the ledger holds only rows of scripts whose
  statements and record have been sent by then and have succeeded. -/
  accounted : ∀ front e back, r.trace.sent = front ++ e :: back →
    r.bootstrap.sent.length ≤ front.length →
      ∃ now, now <+: pendingAfter base scripts ∧
        r.job.rowsIn r.view e.after = base ++ now.map r.job.ledger.storedRow ∧
        ∃ done, done <:+: front ++ [e] ∧ r.job.Applied 0 now done
  /-- A run that succeeds has applied all pending scripts, and reports the rows that it added. -/
  succeeded : ∀ report, r.trace.result = .ok report → applied = pendingAfter base scripts ∧
    report.applied = applied.map r.job.ledger.recordOf ∧
    r.job.ledger.storedRows r.after = base ++ report.applied.map AppliedScript.row
  /-- A run that fails at a script has applied the pending scripts before it. -/
  failed : ∀ error, r.trace.result = .error error →
    r.StoppedBehind (pendingAfter base scripts) applied error

theorem blame_of_mem_scriptSteps {job : Job} {number : Nat} {script : Script} {step : Step}
    (h : step ∈ job.scriptSteps number script) (error : SessionError) :
    step.blame error = .script script.name error ∨
      step.blame error = .ledgerWrite script.name job.ledger.qualified error.message := by
  rcases List.mem_append.mp h with h | h
  · obtain ⟨text, -, rfl⟩ := List.mem_map.mp h
    exact .inl rfl
  · rw [List.mem_singleton.mp h]
    exact .inr rfl

theorem stoppedBehind_of_stopsAt {r : Run fate} {due applied rest : List Script} {script : Script}
    (hdue : due = applied ++ script :: rest)
    (hstops : r.trace.StopsAt r.job.timeout (r.job.scriptSteps applied.length script))
    {error : MigrationError} (herror : r.trace.result = .error error) :
    r.StoppedBehind due applied error := by
  obtain ⟨step, hstep, front, e, -, -, -, hresult⟩ := id hstops
  have hblame : error = step.blame (e.reply.fault r.job.timeout step.statement) :=
    Except.error.inj (herror.symm.trans hresult)
  rw [hblame]
  rcases blame_of_mem_scriptSteps hstep (e.reply.fault r.job.timeout step.statement) with h | h
  · rw [h]
    exact ⟨script, rest, hdue, rfl, hstops⟩
  · rw [h]
    exact ⟨script, rest, hdue, rfl, hstops⟩

theorem stoppedBehind_of_aboutLedger {r : Run fate} (due : List Script) {error : MigrationError}
    (h : error.AboutLedger) : r.StoppedBehind due [] error := by
  cases error <;> first | exact rfl | exact h.elim

/-- **The ledger after a run.** Whatever the store holds, and wherever the run fails behind its
bootstrap, the ledger has grown by the rows of the pending scripts in front of the failure. -/
theorem ledger_delta (r : Run .undone) (hleaves : r.LeavesLedger) {scripts : List Script}
    (hfound : r.discovered = .ok scripts) (hne : scripts ≠ []) {action : KeyspaceAction}
    (hpast : r.bootstrap.result = .ok action) :
    ∃ applied, r.Delta (r.base action) scripts applied := by
  have haccounted := fun front e back => @accounted scripts r hleaves hfound hne action hpast
    front back e
  rcases outcome_cases hleaves hfound hne hpast with ⟨error, hresult, habout, hrows⟩ |
    ⟨version, close, -, hresult, hrows⟩ | ⟨applied, script, rest, hdue, hstops, hrows⟩
  · -- the ledger stands in the way
    refine ⟨[], List.nil_prefix, by simpa using hrows, haccounted, ?_, ?_⟩
    · intro report hreport
      cases hresult.symm.trans hreport
    · intro other hother
      rw [Except.error.inj (hother.symm.trans hresult)]
      exact stoppedBehind_of_aboutLedger _ habout
  · -- all pending scripts are recorded
    refine ⟨pendingAfter (r.base action) scripts, List.prefix_rfl, hrows, haccounted, ?_, ?_⟩
    · intro report hreport
      rw [hresult] at hreport
      rcases close with _ | closing
      · rw [← Except.ok.inj hreport]
        refine ⟨rfl, rfl, ?_⟩
        simp only [hrows, Job.reportOf, List.map_map]
        exact congrArg _ (List.map_congr_left fun script _ =>
          (r.job.ledger.row_recordOf script).symm)
      · cases hreport
    · intro other hother
      rw [hresult] at hother
      rcases close with _ | closing
      · cases hother
      · rw [← Except.error.inj hother]
        exact rfl
  · -- a script fails
    refine ⟨applied, ?_, ?_, haccounted, ?_, ?_⟩
    · rw [hdue]
      exact List.prefix_append applied (script :: rest)
    · rcases hrows with hrows | ⟨hfate, -⟩
      · exact hrows
      · cases hfate
    · intro report hreport
      obtain ⟨step, hstep, front, e, -, -, -, herror⟩ := hstops
      cases herror.symm.trans hreport
    · intro error herror
      exact stoppedBehind_of_stopsAt hdue hstops herror

/-- The ledger after a run that fails at the second of two scripts of one version. -/
theorem ledger_delta_sample :
    let r := Sample.run (fun s => s.text = "SELECT 2") Store.empty
    r.LeavesLedger ∧ r.discovered = .ok Sample.scripts ∧ Sample.scripts ≠ [] ∧
      r.bootstrap.result = .ok .created ∧
      ∃ applied, r.Delta (r.base .created) Sample.scripts applied := by
  intro r
  have hleaves : r.LeavesLedger := Sample.leavesLedger _ _
  have hfound : r.discovered = .ok Sample.scripts := Sample.discovered _ _
  have hne : Sample.scripts ≠ [] := List.cons_ne_nil _ _
  have hpast : r.bootstrap.result = .ok .created := by decide +kernel
  exact ⟨hleaves, hfound, hne, hpast, ledger_delta r hleaves hfound hne hpast⟩

end Run

end SchemaMigration
