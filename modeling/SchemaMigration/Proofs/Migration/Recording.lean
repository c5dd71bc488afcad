import SchemaMigration.Proofs.Ledger.Stored
import SchemaMigration.Proofs.Migration.Course
import SchemaMigration.Proofs.Store.Keeping

/-!
# What scripts leave in the ledger

The steps of a script change the ledger at the very end, when its row is written. So the rows are
those of the scripts that have been applied, at every moment.

* `Job.attempt_scriptSteps`: one script.
* `Job.attempt_dueSteps`: the scripts that are due, in order.
* `Job.resume_cases`: the part of a run that comes after the bootstrap.
* `Job.resume_grows`: the rows at every moment of it, also where a failed write may have added one.
* `Job.attempt_dueSteps_accounted`, `Job.resume_accounted`: the ledger after each statement on the
  way.
-/

namespace SchemaMigration

namespace Job

variable {σ : Type} {fate : FailedWrite} {session : Session σ} {view : σ → Store} {job : Job}

/-- The rows of a job's ledger, in a store that a session keeps. -/
def rowsIn (job : Job) (view : σ → Store) (state : σ) : List StoredRow :=
  job.ledger.storedRows (view state)

/-- The steps of a script have left the rows alone, unless a failed write has added one. -/
def Untouched (fate : FailedWrite) (job : Job) (script : Script) (rows rows' : List StoredRow) :
    Prop :=
  rows' = rows ∨ fate = .unknown ∧ rows' = rows ++ [job.ledger.storedRow script]

/-- To record a script adds its row, or fails. -/
theorem attempt_recordStep (hkeeps : session.Keeps fate view job.ledger job.timeout)
    (script : Script) (number : Nat) (state : σ) :
    let t := session.attempt job.timeout [job.recordStep number script] state
    ∃ e, t.sent = [e] ∧ job.rowsIn view e.after = job.rowsIn view t.state ∧
      ((t.result = .ok () ∧
          job.rowsIn view t.state = job.rowsIn view state ++ [job.ledger.storedRow script]) ∨
        (∃ error, t.result = .error error ∧
          Untouched fate job script (job.rowsIn view state) (job.rowsIn view t.state))) := by
  intro t
  have ht : t = _ := session.attempt_single job.timeout (job.recordStep number script) state
  obtain ⟨e, hsent, -, hview, hcase⟩ := hkeeps.ask_cases (.insertRow (job.rowId number) script)
    (job.recordStep number script).blame state
  have hwritten : ∀ {rows s'}, Ledger.Request.Done job.ledger
      (.insertRow (job.rowId number) script) (view state) rows s' →
      job.ledger.storedRows s' = job.rowsIn view state ++ [job.ledger.storedRow script] := by
    intro rows s' hdone
    obtain ⟨table, hstored, -, hnew⟩ := Ledger.Request.done_insertRow hdone
    simp only [rowsIn, Ledger.storedRows_of_stored? hstored, Ledger.storedRows_of_stored? hnew]
  rw [ht]
  refine ⟨e, hsent, congrArg job.ledger.storedRows hview, ?_⟩
  rcases hcase with ⟨rows, hok, -, hdone⟩ | ⟨error, herror, -, hafter⟩
  · exact .inl ⟨congrArg (Except.map fun _ => ()) hok, hwritten hdone⟩
  · -- the record has failed, which need not mean that it is not there
    refine .inr ⟨_, congrArg (Except.map fun _ => ()) herror, ?_⟩
    rcases hafter with hsame | ⟨hfate, id, other, rows, hother, hdone⟩
    · left
      exact congrArg job.ledger.storedRows hsame
    · right
      cases hother
      exact ⟨hfate, hwritten hdone⟩

/-- The statements of a script leave the rows alone. -/
theorem attempt_statementSteps (hkeeps : session.Keeps fate view job.ledger job.timeout)
    {script : Script} (hleaves : session.LeavesLedger view job.ledger job.timeout script)
    (state : σ) :
    let t := session.attempt job.timeout (script.statements.map (statementStep script)) state
    job.rowsIn view t.state = job.rowsIn view state ∧
      ∀ e ∈ t.sent, job.rowsIn view e.after = job.rowsIn view state := by
  intro t
  have hrows : ∀ {s}, job.ledger.stored? s = job.ledger.stored? (view state) →
      job.ledger.storedRows s = job.rowsIn view state := by
    intro s hs
    simp only [rowsIn, Ledger.storedRows, hs]
  have hsteps : ∀ step ∈ script.statements.map (statementStep script),
      session.Preserves view job.timeout
        (fun s => job.ledger.stored? s = job.ledger.stored? (view state)) step.statement := by
    intro step hstep
    obtain ⟨text, htext, rfl⟩ := List.mem_map.mp hstep
    exact hleaves.spares (· = job.ledger.stored? (view state)) text htext
  obtain ⟨hend, hmoments⟩ := hkeeps.attempt_preserves hsteps rfl
  exact ⟨hrows hend, fun e he => hrows (hmoments e he)⟩

/-- A script adds its row with its last statement, or none. -/
theorem attempt_scriptSteps (hkeeps : session.Keeps fate view job.ledger job.timeout)
    {script : Script} (hleaves : session.LeavesLedger view job.ledger job.timeout script)
    (number : Nat) (state : σ) :
    let t := session.attempt job.timeout (job.scriptSteps number script) state
    (t.result = .ok () ∧
      job.rowsIn view t.state = job.rowsIn view state ++ [job.ledger.storedRow script] ∧
      ∃ front e, t.sent = front ++ [e] ∧
        (∀ f ∈ front, job.rowsIn view f.after = job.rowsIn view state) ∧
        job.rowsIn view e.after = job.rowsIn view t.state) ∨
    (∃ error, t.result = .error error ∧
      Untouched fate job script (job.rowsIn view state) (job.rowsIn view t.state) ∧
      ∀ e ∈ t.sent, job.rowsIn view e.after = job.rowsIn view state ∨
        job.rowsIn view e.after = job.rowsIn view t.state) := by
  intro t
  have ht := session.attempt_append job.timeout (script.statements.map (statementStep script))
    [job.recordStep number script] state
  obtain ⟨hrows, hbefore⟩ := attempt_statementSteps hkeeps hleaves state
  rcases hresult : (session.attempt job.timeout
    (script.statements.map (statementStep script)) state).result with error | ⟨⟩
  · -- a statement has failed, so the record is not sent
    rw [Trace.bind_of_error hresult] at ht
    have hall : t = _ := ht
    rw [hall]
    exact .inr ⟨error, rfl, .inl hrows, fun e he => .inl (hbefore e he)⟩
  · rw [Trace.bind_of_ok hresult] at ht
    have hall : t = _ := ht
    obtain ⟨e, hsent, hlast, hcase⟩ := attempt_recordStep hkeeps script number (session.attempt
      job.timeout (script.statements.map (statementStep script)) state).state
    rw [hrows] at hcase
    rw [hall]
    simp only [hsent]
    rcases hcase with ⟨hok, hwritten⟩ | ⟨error, herror, huntouched⟩
    · exact .inl ⟨hok, hwritten, _, e, rfl, hbefore, hlast⟩
    · refine .inr ⟨error, herror, huntouched, ?_⟩
      intro f hf
      rcases List.mem_append.mp hf with hf | hf
      · exact .inl (hbefore f hf)
      · rw [List.mem_singleton.mp hf]
        exact .inr hlast

/-- The scripts before the first that fails are recorded, and if none fails all are. -/
theorem attempt_dueSteps (hkeeps : session.Keeps fate view job.ledger job.timeout)
    {due : List Script} (hleaves : ∀ script ∈ due,
      session.LeavesLedger view job.ledger job.timeout script)
    (number : Nat) (state : σ) :
    let t := session.attempt job.timeout (job.dueSteps number due) state
    (t.result = .ok () ∧
      job.rowsIn view t.state = job.rowsIn view state ++ due.map job.ledger.storedRow) ∨
    ∃ applied script rest, due = applied ++ script :: rest ∧
      t.StopsAt job.timeout (job.scriptSteps (number + applied.length) script) ∧
      Untouched fate job script
        (job.rowsIn view state ++ applied.map job.ledger.storedRow) (job.rowsIn view t.state) := by
  induction due generalizing number state with
  | nil => exact .inl ⟨rfl, (List.append_nil _).symm⟩
  | cons script scripts ih =>
      intro t
      obtain ⟨hscript, hscripts⟩ := List.forall_mem_cons.mp hleaves
      have ht := session.attempt_append job.timeout (job.scriptSteps number script)
        (job.dueSteps (number + 1) scripts) state
      rcases attempt_scriptSteps hkeeps hscript number state with
        ⟨hok, hrows, -⟩ | ⟨error, herror, huntouched, -⟩
      · -- the script has been applied, and the others decide how it ends
        rw [Trace.bind_of_ok hok] at ht
        have hall : t = _ := ht
        rw [hall]
        rcases ih hscripts (number + 1)
            (session.attempt job.timeout (job.scriptSteps number script) state).state with
          ⟨hrest, hend⟩ | ⟨applied, failed, rest, hdue, hstops, hend⟩
        · left
          refine ⟨hrest, ?_⟩
          rw [hrows] at hend
          simpa using hend
        · right
          refine ⟨script :: applied, failed, rest, by rw [hdue]; rfl, ?_, ?_⟩
          · have hnumber : number + (script :: applied).length = number + 1 + applied.length := by
              simp only [List.length_cons]
              omega
            rw [hnumber]
            exact hstops.append _
          · rw [hrows] at hend
            simpa using hend
      · -- this is the script that fails
        have hstops := session.attempt_stopsAt job.timeout herror
        rw [Trace.bind_of_error herror] at ht
        have hall : t = _ := ht
        rw [hall]
        refine .inr ⟨[], script, scripts, rfl, ?_, ?_⟩
        · obtain ⟨step, hstep, front, e, hsent, hstatement, hnot, hresult⟩ := hstops
          exact ⟨step, hstep, front, e, hsent, hstatement, hnot, herror.symm.trans hresult⟩
        · simpa using huntouched

/-- Reading the ledger leaves the store as it is. The rows are those that are stored, in some
order. -/
theorem ask_selectRows (hkeeps : session.Keeps fate view job.ledger job.timeout) (state : σ) :
    let t := session.ask job.timeout job.ledger.selectRows
      (MigrationError.ledgerRead job.ledger.qualified) state
    ∃ e, t.sent = [e] ∧ view e.after = view state ∧ view t.state = view state ∧
      ((∃ rows, t.result = .ok (.ofRows rows) ∧
          rows.Perm ((job.rowsIn view state).map
            (Store.StoredRow.cells job.ledger.checksums))) ∨
        (∃ error, t.result = .error (.ledgerRead job.ledger.qualified error))) := by
  intro t
  obtain ⟨e, hsent, -, hview, hcase⟩ := hkeeps.ask_cases_of_ne (r := .selectRows) (by simp)
    (MigrationError.ledgerRead job.ledger.qualified) state
  rcases hcase with ⟨rows, hok, -, hdone⟩ | ⟨error, herror, -, hsame⟩
  · obtain ⟨hsame, table, hstored, -, hrows⟩ := Ledger.Request.done_selectRows hdone
    refine ⟨e, hsent, hview.trans hsame, hsame, .inl ⟨rows, hok, ?_⟩⟩
    rw [rowsIn, Ledger.storedRows_of_stored? hstored]
    exact hrows
  · exact ⟨e, hsent, hview.trans hsame, hsame, .inr ⟨error, herror⟩⟩

theorem readable_of_ask_selectRows (hkeeps : session.Keeps fate view job.ledger job.timeout)
    {state : σ} {rows : List Row} (h : (session.ask job.timeout job.ledger.selectRows
      (MigrationError.ledgerRead job.ledger.qualified) state).result = .ok (.ofRows rows)) :
    job.ledger.Readable (view state) := by
  obtain ⟨-, -, -, -, ⟨rows', -, -, hdone⟩ | ⟨error, herror, -⟩⟩ := hkeeps.ask_cases_of_ne
    (r := .selectRows) (by simp) (MigrationError.ledgerRead job.ledger.qualified) state
  · exact Ledger.Request.readable_of_done_selectRows hdone
  · cases h.symm.trans herror

theorem perm_of_ask_selectRows (hkeeps : session.Keeps fate view job.ledger job.timeout) {state : σ}
    {rows : List Row} (h : (session.ask job.timeout job.ledger.selectRows
      (MigrationError.ledgerRead job.ledger.qualified) state).result = .ok (.ofRows rows)) :
    rows.Perm ((job.rowsIn view state).map (Store.StoredRow.cells job.ledger.checksums)) := by
  obtain ⟨-, -, -, -, ⟨rows', hok, hperm⟩ | ⟨error, herror⟩⟩ := ask_selectRows hkeeps state
  · obtain rfl : rows = rows' := congrArg Answer.rows (Except.ok.inj (h.symm.trans hok))
    exact hperm
  · cases h.symm.trans herror

/-- After the bootstrap a run reads the ledger. Either this keeps it from going on, or it attempts
the scripts that are newer than every row. Reading changes no row. -/
theorem resume_parts (hkeeps : session.Keeps fate view job.ledger job.timeout)
    (scripts : List Script) (action : KeyspaceAction) (state : σ) :
    let t := job.resume session scripts action state
    let due := pendingAfter (job.rowsIn view state) scripts
    ∃ (read : Exchange σ) (behind : σ),
      job.rowsIn view read.after = job.rowsIn view state ∧
      job.rowsIn view behind = job.rowsIn view state ∧
      ((∃ error, t = ⟨.error error, behind, [read]⟩ ∧ error.AboutLedger) ∨
        (∃ version : Version, (version : Int) = newestRow (job.rowsIn view state) ∧
          let applied := session.attempt job.timeout (job.dueSteps 0 due) behind
          t = ⟨applied.result.map fun _ => job.reportOf scripts action (version, due),
            applied.state, read :: applied.sent⟩)) := by
  intro t due
  obtain ⟨read, hsent, hview, hsame, hcase⟩ := ask_selectRows hkeeps state
  refine ⟨read, _, congrArg job.ledger.storedRows hview, congrArg job.ledger.storedRows hsame, ?_⟩
  rcases hcase with ⟨rows, hok, hperm⟩ | ⟨error, herror⟩
  · -- what has been read decides, and it is what is stored
    rcases Job.duty_of_stored hperm scripts with
      ⟨error, hduty, habout⟩ | ⟨version, hversion, hduty⟩
    · have ht : t = _ := resume_of_duty_error session hok hduty action
      exact .inl ⟨error, ht.trans (by simp only [hsent]), habout⟩
    · have ht : t = _ := resume_of_duty session hok hduty action
      exact .inr ⟨version, hversion, by rw [ht, hsent]; rfl⟩
  · have ht : t = _ := Trace.bind_of_error herror _
    exact .inl ⟨.ledgerRead job.ledger.qualified error, by rw [ht, hsent], trivial⟩

/-- After the bootstrap a run ends with an error about the ledger, or with all pending scripts
recorded, or with those before the first that fails. -/
theorem resume_cases (hkeeps : session.Keeps fate view job.ledger job.timeout)
    {scripts : List Script} (hleaves : ∀ script ∈ scripts,
      session.LeavesLedger view job.ledger job.timeout script)
    (action : KeyspaceAction) (state : σ) :
    let t := job.resume session scripts action state
    let due := pendingAfter (job.rowsIn view state) scripts
    (∃ error, t.result = .error error ∧ error.AboutLedger ∧
      job.rowsIn view t.state = job.rowsIn view state) ∨
    (∃ version : Version, (version : Int) = newestRow (job.rowsIn view state) ∧
      t.result = .ok (job.reportOf scripts action (version, due)) ∧
      job.rowsIn view t.state = job.rowsIn view state ++ due.map job.ledger.storedRow) ∨
    (∃ applied script rest, due = applied ++ script :: rest ∧
      t.StopsAt job.timeout (job.scriptSteps applied.length script) ∧
      Untouched fate job script
        (job.rowsIn view state ++ applied.map job.ledger.storedRow) (job.rowsIn view t.state)) := by
  intro t due
  have hdue : ∀ script ∈ due, session.LeavesLedger view job.ledger job.timeout script := by
    intro script hscript
    exact hleaves script (List.mem_of_mem_filter hscript)
  obtain ⟨read, behind, -, hbehind, ⟨error, ht, habout⟩ | ⟨version, hversion, ht⟩⟩ :=
    resume_parts hkeeps scripts action state
  · have ht : t = _ := ht
    rw [ht]
    exact .inl ⟨error, rfl, habout, hbehind⟩
  · right
    have ht : t = _ := ht
    rw [ht]
    rcases attempt_dueSteps hkeeps hdue 0 behind with
      ⟨hresult, hend⟩ | ⟨applied, script, rest, hsplit, hstops, hend⟩ <;> rw [hbehind] at hend
    · left
      refine ⟨version, hversion, ?_, hend⟩
      exact congrArg (Except.map fun _ => job.reportOf scripts action (version, due)) hresult
    · right
      rw [Nat.zero_add] at hstops
      exact ⟨applied, script, rest, hsplit, (hstops.map _).append [read], hend⟩

/-! ## The growth of the ledger -/

/-- The rows in the states behind some exchanges: they grow by those of scripts in order, up to what
they are at the end. -/
def Grows (job : Job) (view : σ → Store) (rows : List StoredRow) (added : List Script)
    (sent : List (Exchange σ)) : Prop :=
  ∀ e ∈ sent, ∃ now, now <+: added ∧
    job.rowsIn view e.after = rows ++ now.map job.ledger.storedRow

theorem grows_of_same {rows : List StoredRow} {added : List Script} {sent : List (Exchange σ)}
    (h : ∀ e ∈ sent, job.rowsIn view e.after = rows) : job.Grows view rows added sent := by
  intro e he
  exact ⟨[], List.nil_prefix, by simpa using h e he⟩

/-- The rows of the scripts that are due are added one after the other, perhaps not all of them. -/
theorem attempt_dueSteps_grows (hkeeps : session.Keeps fate view job.ledger job.timeout)
    {due : List Script} (hleaves : ∀ script ∈ due,
      session.LeavesLedger view job.ledger job.timeout script)
    (number : Nat) (state : σ) :
    let t := session.attempt job.timeout (job.dueSteps number due) state
    ∃ added, added <+: due ∧
      job.rowsIn view t.state = job.rowsIn view state ++ added.map job.ledger.storedRow ∧
      job.Grows view (job.rowsIn view state) added t.sent := by
  -- on the scripts; the rest starts from the row of the first, so the state is general
  induction due generalizing number state with
  | nil => exact ⟨[], List.prefix_rfl, (List.append_nil _).symm, by simp [Grows, dueSteps,
      Session.attempt]⟩
  | cons script scripts ih =>
      intro t
      obtain ⟨hscript, hscripts⟩ := List.forall_mem_cons.mp hleaves
      have ht := session.attempt_append job.timeout (job.scriptSteps number script)
        (job.dueSteps (number + 1) scripts) state
      rcases attempt_scriptSteps hkeeps hscript number state with
        ⟨hok, hrows, front, last, hsent, hfront, hlast⟩ | ⟨error, herror, huntouched, hmoments⟩
      · -- the first script has been applied, and the others go on from its row
        obtain ⟨added, hadded, hend, hgrows⟩ := ih hscripts (number + 1)
          (session.attempt job.timeout (job.scriptSteps number script) state).state
        rw [Trace.bind_of_ok hok] at ht
        have hall : t = _ := ht
        rw [hrows] at hend hgrows
        rw [hall, hsent]
        refine ⟨script :: added, List.cons_prefix_cons.mpr ⟨rfl, hadded⟩, by simpa using hend, ?_⟩
        intro e he
        rcases List.mem_append.mp he with he | he
        · rcases List.mem_append.mp he with he | he
          · exact ⟨[], List.nil_prefix, by simpa using hfront e he⟩
          · rw [List.mem_singleton.mp he]
            exact ⟨[script], List.prefix_append [script] added, hlast.trans hrows⟩
        · obtain ⟨now, hnow, hmoment⟩ := hgrows e he
          exact ⟨script :: now, List.cons_prefix_cons.mpr ⟨rfl, hnow⟩, by simpa using hmoment⟩
      · -- the first script has failed, and its row may be there all the same
        rw [Trace.bind_of_error herror] at ht
        have hall : t = _ := ht
        rw [hall]
        rcases huntouched with hsame | ⟨-, hwritten⟩
        · refine ⟨[], List.nil_prefix, by simpa using hsame, grows_of_same ?_⟩
          intro e he
          rcases hmoments e he with hmoment | hmoment
          · exact hmoment
          · exact hmoment.trans hsame
        · refine ⟨[script], List.prefix_append [script] scripts, hwritten, ?_⟩
          intro e he
          rcases hmoments e he with hmoment | hmoment
          · exact ⟨[], List.nil_prefix, by simpa using hmoment⟩
          · exact ⟨[script], List.prefix_rfl, hmoment.trans hwritten⟩

/-- What follows the bootstrap adds rows of pending scripts one after the other. -/
theorem resume_grows (hkeeps : session.Keeps fate view job.ledger job.timeout)
    {scripts : List Script} (hleaves : ∀ script ∈ scripts,
      session.LeavesLedger view job.ledger job.timeout script)
    (action : KeyspaceAction) (state : σ) :
    let t := job.resume session scripts action state
    ∃ added, added <+: pendingAfter (job.rowsIn view state) scripts ∧
      job.rowsIn view t.state = job.rowsIn view state ++ added.map job.ledger.storedRow ∧
      job.Grows view (job.rowsIn view state) added t.sent := by
  intro t
  have hdue : ∀ script ∈ pendingAfter (job.rowsIn view state) scripts,
      session.LeavesLedger view job.ledger job.timeout script := by
    intro script hscript
    exact hleaves script (List.mem_of_mem_filter hscript)
  obtain ⟨read, behind, hread, hbehind, ⟨error, ht, -⟩ | ⟨version, -, ht⟩⟩ :=
    resume_parts hkeeps scripts action state
  · have ht : t = _ := ht
    rw [ht]
    exact ⟨[], List.nil_prefix, by simpa using hbehind, grows_of_same (by simpa using hread)⟩
  · have ht : t = _ := ht
    rw [ht]
    obtain ⟨added, hadded, hend, hgrows⟩ := attempt_dueSteps_grows hkeeps hdue 0 behind
    rw [hbehind] at hend hgrows
    refine ⟨added, hadded, hend, ?_⟩
    intro e he
    rcases List.mem_cons.mp he with rfl | he
    · exact ⟨[], List.nil_prefix, by simpa using hread⟩
    · exact hgrows e he

/-- The steps of scripts fail with errors at these. -/
theorem atScript_of_attempt {number : Nat} {due : List Script} {state : σ} {error : MigrationError}
    (h : (session.attempt job.timeout (job.dueSteps number due) state).result = .error error) :
    error.AtScript := by
  have hscript : ∀ step ∈ job.dueSteps number due, ∀ fault, (step.blame fault).AtScript :=
    forall_mem_dueSteps (fun _ _ _ _ _ => trivial) (fun _ _ _ _ => trivial) number
  obtain ⟨step, hstep, front, f, -, -, -, hblame⟩ := session.attempt_stopsAt job.timeout h
  rw [h, Except.error.injEq] at hblame
  rw [hblame]
  exact hscript step hstep _

/-- How what follows the bootstrap may fail: the ledger cannot be read, or what has been read keeps
the run from going on, or a script fails. -/
theorem error_cases_of_resume {scripts : List Script} {action : KeyspaceAction} {state : σ}
    {error : MigrationError}
    (h : (job.resume session scripts action state).result = .error error) :
    let t := session.ask job.timeout job.ledger.selectRows
      (MigrationError.ledgerRead job.ledger.qualified) state
    (∃ reason, error = .ledgerRead job.ledger.qualified reason) ∨
      (∃ rows, t.result = .ok (.ofRows rows) ∧ job.duty scripts rows = .error error ∧
        (job.resume session scripts action state).sent = t.sent ∧
        (job.resume session scripts action state).state = t.state) ∨
      error.AtScript := by
  intro t
  obtain ⟨e, -, -, -, ⟨rows, -, hok⟩ | ⟨-, herror⟩⟩ := session.ask_cases job.timeout
    job.ledger.selectRows (MigrationError.ledgerRead job.ledger.qualified) state
  · right
    rcases hduty : job.duty scripts rows with other | due
    · left
      rw [resume_of_duty_error session hok hduty] at h ⊢
      obtain rfl : other = error := Except.error.inj h
      exact ⟨rows, hok, hduty, rfl, rfl⟩
    · right
      rw [resume_of_duty session hok hduty] at h
      rcases hattempt : (session.attempt job.timeout (job.dueSteps 0 due.2) t.state).result with
        other | value
      · have hother : other = error := by simpa [t, hattempt, Except.map] using h
        exact atScript_of_attempt (hother ▸ hattempt)
      · simp [t, hattempt, Except.map] at h
  · rw [resume, Trace.bind_of_error herror] at h
    exact .inl ⟨_, (Except.error.inj h).symm⟩

/-- After the bootstrap a run fails with an error about the ledger or at a script. -/
theorem error_of_resume {scripts : List Script} {action : KeyspaceAction} {state : σ}
    {error : MigrationError}
    (h : (job.resume session scripts action state).result = .error error) :
    error.AboutLedger ∨ error.AtScript := by
  rcases error_cases_of_resume h with ⟨reason, rfl⟩ | ⟨rows, -, hduty, -⟩ | hscript
  · exact .inl trivial
  · exact .inl (aboutLedger_of_duty hduty)
  · exact .inr hscript

/-- What follows the bootstrap leaves the ledger in place with the columns that it has, at every
moment, if the scripts do. -/
theorem shape?_resume (hkeeps : session.Keeps fate view job.ledger job.timeout)
    {scripts : List Script} {P : Option Bool → Prop} (hspares : ∀ script ∈ scripts,
      session.Spares view job.timeout (fun s => P (job.ledger.shape? s)) script)
    (action : KeyspaceAction) {state : σ} (hstate : P (job.ledger.shape? (view state))) :
    let t := job.resume session scripts action state
    P (job.ledger.shape? (view t.state)) ∧ ∀ e ∈ t.sent, P (job.ledger.shape? (view e.after)) := by
  intro t
  obtain ⟨e, hsent, hmoment, hsame, hcase⟩ := ask_selectRows hkeeps state
  have hafter : ∀ f ∈ [e], P (job.ledger.shape? (view f.after)) := by
    simpa [hmoment] using hstate
  rw [← hsame] at hstate
  rcases hcase with ⟨rows, hok, -⟩ | ⟨error, herror⟩
  · rcases hduty : job.duty scripts rows with error | due
    · simp only [t, resume_of_duty_error session hok hduty, hsent]
      exact ⟨hstate, hafter⟩
    · simp only [t, resume_of_duty session hok hduty, hsent]
      have hsteps : ∀ step ∈ job.dueSteps 0 due.2, session.Preserves view job.timeout
          (fun s => P (job.ledger.shape? s)) step.statement := by
        apply forall_mem_dueSteps
        · intro script hscript
          exact hspares script (mem_of_duty hduty hscript)
        · intro script hscript number
          exact hkeeps.preserves_insertRow (job.rowId number) script P
      obtain ⟨hend, hmoments⟩ := hkeeps.attempt_preserves hsteps hstate
      exact ⟨hend, List.forall_mem_append.mpr ⟨hafter, hmoments⟩⟩
  · simp only [t, resume, Trace.bind_of_error herror, hsent]
    exact ⟨hstate, hafter⟩

theorem present_resume (hkeeps : session.Keeps fate view job.ledger job.timeout)
    {scripts : List Script} (hspares : ∀ script ∈ scripts,
      session.Spares view job.timeout job.ledger.Present script)
    (action : KeyspaceAction) {state : σ} (hpresent : job.ledger.Present (view state)) :
    job.ledger.Present (view (job.resume session scripts action state).state) := by
  have hiff : job.ledger.Present = fun s => (job.ledger.shape? s).isSome = true :=
    funext fun s => propext Ledger.present_iff_shape?
  rw [hiff] at hspares hpresent ⊢
  exact (shape?_resume (P := fun shape => shape.isSome = true) hkeeps hspares action hpresent).1

/-! ## The ledger at every moment -/

/-- All statements of some scripts have been sent in a row and have succeeded, those of each script
followed by its record. -/
def Applied (job : Job) (number : Nat) (scripts : List Script) (log : List (Exchange σ)) : Prop :=
  log.map (·.statement) = job.statementsOf (job.dueSteps number scripts) ∧
    ∀ e ∈ log, e.Succeeded job.timeout

/-- Right after a statement the ledger holds, besides some rows, those of scripts that are due and
have been applied by then. -/
def Accounted (job : Job) (view : σ → Store) (number : Nat) (due : List Script)
    (rows : List StoredRow) (before : List (Exchange σ)) (e : Exchange σ) : Prop :=
  ∃ now, now <+: due ∧
    job.rowsIn view e.after = rows ++ now.map job.ledger.storedRow ∧
    ∃ done, done <+: before ++ [e] ∧ job.Applied number now done

variable {number : Nat} {script : Script} {scripts : List Script} {rows : List StoredRow}
  {log before : List (Exchange σ)} {e : Exchange σ}

theorem applied_cons (hfirst : job.Applied number [script] log)
    (hrest : job.Applied (number + 1) scripts before) :
    job.Applied number (script :: scripts) (log ++ before) := by
  refine ⟨?_, ?_⟩
  · rw [List.map_append, hfirst.1, hrest.1]
    simp [statementsOf, dueSteps]
  · intro f hf
    rcases List.mem_append.mp hf with hf | hf
    · exact hfirst.2 f hf
    · exact hrest.2 f hf

/-- As long as no row is added, nothing has to be accounted for. -/
theorem accounted_of_same (h : job.rowsIn view e.after = rows) :
    job.Accounted view number scripts rows before e :=
  ⟨[], List.nil_prefix, by simpa using h, [], List.nil_prefix, rfl, by simp⟩

theorem accounted_of_applied (hfirst : job.Applied number [script] (before ++ [e]))
    (h : job.rowsIn view e.after = rows ++ [job.ledger.storedRow script]) :
    job.Accounted view number (script :: scripts) rows before e := by
  refine ⟨[script], ?_, h, before ++ [e], List.prefix_rfl, hfirst⟩
  exact List.prefix_append [script] scripts

theorem accounted_cons (hfirst : job.Applied number [script] log)
    (h : job.Accounted view (number + 1) scripts (rows ++ [job.ledger.storedRow script])
      before e) :
    job.Accounted view number (script :: scripts) rows (log ++ before) e := by
  obtain ⟨now, hnow, hrows, done, hdone, happlied⟩ := h
  refine ⟨script :: now, ?_, ?_, log ++ done, ?_, applied_cons hfirst happlied⟩
  · exact List.cons_prefix_cons.mpr ⟨rfl, hnow⟩
  · simpa using hrows
  · rw [List.append_assoc]
    exact (List.prefix_append_right_inj log).mpr hdone

/-- The rows of the ledger are accounted for at every moment. -/
theorem attempt_dueSteps_accounted (hkeeps : session.Keeps .undone view job.ledger job.timeout)
    {due : List Script} (hleaves : ∀ script ∈ due,
      session.LeavesLedger view job.ledger job.timeout script)
    (number : Nat) (state : σ) {front back : List (Exchange σ)} {e : Exchange σ}
    (hsplit : (session.attempt job.timeout (job.dueSteps number due) state).sent =
      front ++ e :: back) :
    job.Accounted view number due (job.rowsIn view state) front e := by
  induction due generalizing number state front with
  | nil => simp [dueSteps, Session.attempt] at hsplit
  | cons script scripts ih =>
      obtain ⟨hscript, hscripts⟩ := List.forall_mem_cons.mp hleaves
      have hattempts := session.attempt_attempts job.timeout (job.scriptSteps number script) state
      rw [dueSteps, session.attempt_append] at hsplit
      rcases attempt_scriptSteps hkeeps hscript number state with
        ⟨hok, hrows, front₀, last, hlog, hbefore, hlast⟩ | ⟨error, herror, huntouched, hbefore⟩
      · rw [Trace.bind_of_ok hok] at hsplit
        have hsucc := hattempts.succeeded () hok
        have hfirst : job.Applied number [script]
            (session.attempt job.timeout (job.scriptSteps number script) state).sent := by
          refine ⟨?_, hsucc⟩
          rw [hattempts.failFast.completes hsucc]
          simp [statementsOf, dueSteps]
        rcases append_eq_append_cons hsplit with
          ⟨middle, hfront, hsecond⟩ | ⟨middle, hmiddle⟩
        · -- the statement belongs to a later script
          have hlater := ih hscripts (number + 1) _ hsecond
          rw [hrows] at hlater
          rw [hfront]
          exact accounted_cons hfirst hlater
        · rcases append_eq_append_cons (hlog.symm.trans hmiddle) with
            ⟨others, hfront, hcons⟩ | ⟨others, hfront⟩
          · -- it is the one that adds the row
            obtain ⟨rfl, rfl, rfl⟩ : others = [] ∧ last = e ∧ middle = [] := by
              cases others <;> simp_all
            rw [hmiddle] at hfirst
            exact accounted_of_applied hfirst (hlast.trans hrows)
          · exact accounted_of_same (hbefore e (by simp [hfront]))
      · -- the script fails, so no row is added
        have hmem : e ∈
            (session.attempt job.timeout (job.scriptSteps number script) state).sent := by
          rw [Trace.bind_of_error herror] at hsplit
          have hsent : (session.attempt job.timeout (job.scriptSteps number script) state).sent =
            front ++ e :: back := hsplit
          simp [hsent]
        rcases huntouched with hend | ⟨hfate, -⟩
        · rcases hbefore e hmem with hsame | hsame
          · exact accounted_of_same hsame
          · exact accounted_of_same (hsame.trans hend)
        · cases hfate

theorem resume_accounted (hkeeps : session.Keeps .undone view job.ledger job.timeout)
    {scripts : List Script} (hleaves : ∀ script ∈ scripts,
      session.LeavesLedger view job.ledger job.timeout script)
    (action : KeyspaceAction) (state : σ) {front back : List (Exchange σ)} {e : Exchange σ}
    (hsplit : (job.resume session scripts action state).sent = front ++ e :: back) :
    ∃ now, now <+: pendingAfter (job.rowsIn view state) scripts ∧
      job.rowsIn view e.after = job.rowsIn view state ++ now.map job.ledger.storedRow ∧
      ∃ done, done <:+: front ++ [e] ∧ job.Applied 0 now done := by
  have hdue : ∀ script ∈ pendingAfter (job.rowsIn view state) scripts,
      session.LeavesLedger view job.ledger job.timeout script := by
    intro script hscript
    exact hleaves script (List.mem_of_mem_filter hscript)
  obtain ⟨read, behind, hread, hbehind, hcase⟩ := resume_parts hkeeps scripts action state
  -- the statement that reads the ledger adds nothing
  have hfirst : ∀ {middle}, [read] = front ++ e :: middle →
      ∃ now, now <+: pendingAfter (job.rowsIn view state) scripts ∧
        job.rowsIn view e.after = job.rowsIn view state ++ now.map job.ledger.storedRow ∧
        ∃ done, done <:+: front ++ [e] ∧ job.Applied 0 now done := by
    intro middle hmiddle
    have hmem : e ∈ [read] := by simp [hmiddle]
    rw [List.mem_singleton.mp hmem, hread]
    exact ⟨[], List.nil_prefix, by simp, [], List.nil_infix, rfl, by simp⟩
  rcases hcase with ⟨error, ht, -⟩ | ⟨version, -, ht⟩
  · rw [ht] at hsplit
    exact hfirst hsplit
  · rw [ht] at hsplit
    rcases append_eq_append_cons (List.singleton_append.trans hsplit) with
      ⟨middle, hfront, hlater⟩ | ⟨middle, hmiddle⟩
    · obtain ⟨now, hnow, hrows, done, hdone, happlied⟩ :=
        attempt_dueSteps_accounted hkeeps hdue 0 behind hlater
      rw [hbehind] at hrows
      refine ⟨now, hnow, hrows, done, ?_, happlied⟩
      rw [hfront, List.append_assoc]
      exact hdone.isInfix.trans (List.suffix_append [read] _).isInfix
    · exact hfirst hmiddle

end Job

end SchemaMigration
