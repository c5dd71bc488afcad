import SchemaMigration.Proofs.Migration.History
import SchemaMigration.Proofs.Migration.Plan

/-!
# Which script a statement is for

Each statement that a run sends has its step. A step is for a script if a failure of the step is put
down to that script.

* `Job.forall_mem_steps`: the steps are requests of the ledger and statements of the scripts.
* `Run.sent_follows_steps`: what a run sends are the statements of its first steps.
* `Run.SendsFor`: a run sends a statement for the script of some name.
* `Run.due_of_sendsFor`: it does so only for scripts that are newer than the rows behind its
  bootstrap.
-/

namespace SchemaMigration

/-- The script that an error is put down to. -/
def MigrationError.script? : MigrationError → Option String
  | .script name _ | .ledgerWrite name _ _ => some name
  | _ => none

/-- The step runs a statement of the script of that name, or records it. -/
def Step.IsFor (step : Step) (name : String) : Prop :=
  ∀ error, (step.blame error).script? = some name

theorem mem_front_of_mem_zip {α β : Type} {first : List α} {front back : List β} {p : α × β}
    (h : p ∈ first.zip (front ++ back)) (hlength : first.length ≤ front.length) : p.2 ∈ front := by
  obtain ⟨i, hi, rfl⟩ := List.mem_iff_getElem.mp h
  have hfirst : i < first.length := by
    simp only [List.length_zip] at hi
    omega
  simp [List.getElem_append_left (Nat.lt_of_lt_of_le hfirst hlength)]

namespace Job

variable {σ : Type} {fate : FailedWrite} {session : Session σ} {view : σ → Store} {job : Job}

theorem mem_of_dueScripts {scripts : List Script} {rows : List Row} {script : Script}
    (h : script ∈ job.dueScripts scripts rows) : script ∈ scripts := by
  unfold dueScripts at h
  split at h
  · cases h
  · split at h
    · exact List.mem_of_mem_filter h
    · cases h

/-- The steps of a run are requests of its ledger and statements of its scripts. Without a refresh
nothing is dropped. -/
theorem forall_mem_steps {scripts : List Script} {P : Step → Prop}
    (hrequest : ∀ request : Ledger.Request, (job.config.refresh = false → request ≠ .dropKeyspace) →
      ∀ blame, P ⟨request.statement job.ledger, blame⟩)
    (hstatement : ∀ script ∈ scripts, ∀ text ∈ script.statements, P (statementStep script text))
    (tables rows : List Row) : ∀ step ∈ job.steps scripts tables rows, P step := by
  intro step hstep
  rcases List.mem_append.mp hstep with hopening | hrest
  · rcases List.mem_cons.mp hopening with rfl | hbootstrap
    · exact hrequest .listTables (by simp) _
    · obtain ⟨request, rfl, hdrop⟩ := Ledger.request_of_mem_bootstrapSteps hbootstrap
      exact hrequest request hdrop _
  · rcases List.mem_cons.mp hrest with rfl | hdue
    · exact hrequest .selectRows (by simp) _
    · apply forall_mem_dueSteps _ _ 0 step hdue
      · intro script hscript
        exact hstatement script (mem_of_dueScripts hscript)
      · intro script _ number
        exact hrequest (.insertRow (job.rowId number) script) (by simp) _

/-- Whatever goes wrong up to the scripts is an error of the bootstrap. -/
theorem blame_of_mem_openingSteps {tables : List Row} {step : Step}
    (h : step ∈ job.openingSteps tables) : step.blame = job.ledger.bootstrapError := by
  unfold openingSteps Ledger.bootstrapSteps Ledger.creationSteps at h
  split at h
  · simp only [List.mem_cons, List.not_mem_nil, or_false] at h
    rcases h with rfl | rfl | rfl <;> rfl
  · split at h
    · simp only [List.mem_cons, List.not_mem_nil, or_false] at h
      rcases h with rfl | rfl | rfl | rfl <;> rfl
    · rw [List.mem_singleton.mp h]

theorem script?_of_mem_openingSteps {tables : List Row} {step : Step}
    (h : step ∈ job.openingSteps tables) (error : SessionError) :
    (step.blame error).script? = none := by
  rw [blame_of_mem_openingSteps h]
  rfl

/-- The steps that are due are for the scripts that are due. -/
theorem mem_of_isFor {due : List Script} {number : Nat} {step : Step}
    (hstep : step ∈ job.dueSteps number due) {name : String} (h : step.IsFor name) :
    ∃ script ∈ due, script.name = name := by
  have hall : ∀ step ∈ job.dueSteps number due,
      ∃ script ∈ due, ∀ error, (step.blame error).script? = some script.name := by
    apply forall_mem_dueSteps
    · intro script hscript text htext
      exact ⟨script, hscript, fun error => rfl⟩
    · intro script hscript number
      exact ⟨script, hscript, fun error => rfl⟩
  obtain ⟨script, hscript, hblame⟩ := hall step hstep
  exact ⟨script, hscript, Option.some.inj ((hblame .closed).symm.trans (h .closed))⟩

/-- The bootstrap sends at most one statement for each step up to the scripts, and if it goes
through just as many. It does not read the ledger. -/
theorem sent_bootstrap (session : Session σ) (job : Job) (state : σ) (more : List (Exchange σ)) :
    let t := Task.trace session
      (job.ledger.bootstrap job.timeout job.config.replication job.config.refresh) state
    let opening := job.openingSteps (answered job.timeout job.ledger.listTables (t.sent ++ more))
    t.sent.length ≤ opening.length ∧
      (∀ action, t.result = .ok action → t.sent.length = opening.length) ∧
      ∀ e ∈ t.sent, e.statement ≠ job.ledger.selectRows.withTimeout job.timeout := by
  intro t opening
  have ht : t = _ := Ledger.trace_bootstrap session job.ledger job.timeout _ _ state
  obtain ⟨e, hstatement, -, hsent, hanswer⟩ := session.ask_cases job.timeout job.ledger.listTables
    job.ledger.bootstrapError state
  have hlist : e.statement ≠ job.ledger.selectRows.withTimeout job.timeout :=
    hstatement ▸ listTables_ne_selectRows job.ledger job.timeout
  rcases hanswer with ⟨tables, htables, hok⟩ | ⟨-, herror⟩
  · rw [Trace.bind_of_ok hok, hsent] at ht
    have hopening : opening = job.openingSteps tables := by
      simp only [opening, ht, List.cons_append, answered_cons_self hstatement htables]
    have hattempts := (session.attempt_attempts job.timeout (job.ledger.bootstrapSteps
      job.config.replication job.config.refresh tables) (session.ask job.timeout
      job.ledger.listTables job.ledger.bootstrapError state).state).map
      fun _ => Ledger.actionOn job.config.refresh tables
    rw [hopening, ht]
    simp only [Answer.ofRows, openingSteps, List.singleton_append, List.length_cons,
      List.forall_mem_cons]
    refine ⟨?_, ?_, hlist, ?_⟩
    · have hle := hattempts.failFast.follows.length_le
      simp only [List.length_map] at hle
      omega
    · intro action haction
      have hall := hattempts.failFast.completes (hattempts.succeeded action haction)
      have hlength := congrArg List.length hall
      simp only [List.length_map] at hlength
      omega
    · exact job.ne_selectRows_of_mem_sent session tables _
  · rw [Trace.bind_of_error herror, hsent] at ht
    rw [ht]
    refine ⟨by simp [opening, openingSteps], ?_, by simpa using hlist⟩
    intro action haction
    cases haction

/-- Reading the ledger comes first behind the bootstrap. Either the run fails there, or what follows
is for scripts that are newer than the rows. -/
theorem sent_resume (hkeeps : session.Keeps fate view job.ledger job.timeout)
    (scripts : List Script) (action : KeyspaceAction) (state : σ) :
    let t := job.resume session scripts action state
    ∃ e more, t.sent = e :: more ∧
      e.statement = job.ledger.selectRows.withTimeout job.timeout ∧
      ((more = [] ∧ ∃ error, t.result = .error error) ∨
        ∃ rows, e.reply.rows? job.timeout = some rows ∧
          job.dueScripts scripts rows = pendingAfter (job.rowsIn view state) scripts) := by
  obtain ⟨e, hstatement, -, hsent, hanswer⟩ := session.ask_cases job.timeout job.ledger.selectRows
    (MigrationError.ledgerRead job.ledger.qualified) state
  unfold resume
  rcases hanswer with ⟨rows, hrows, hok⟩ | ⟨-, herror⟩
  · rw [Trace.bind_of_ok hok, hsent]
    refine ⟨e, _, rfl, hstatement, ?_⟩
    obtain ⟨-, -, -, -, ⟨rows', hok', hperm⟩ | ⟨error, herror⟩⟩ := ask_selectRows hkeeps state
    · obtain rfl : rows = rows' := by
        have hanswer := Except.ok.inj (hok.symm.trans hok')
        exact congrArg Answer.rows hanswer
      rcases duty_of_stored hperm scripts with ⟨error, hduty, -⟩ | ⟨version, -, hduty⟩
      · left
        simp only [Answer.ofRows, hduty]
        exact ⟨rfl, error, rfl⟩
      · right
        exact ⟨rows, hrows, dueScripts_of_duty hduty⟩
    · cases hok.symm.trans herror
  · rw [Trace.bind_of_error herror, hsent]
    exact ⟨e, [], rfl, hstatement, .inl ⟨rfl, _, rfl⟩⟩

end Job

namespace Run

variable {fate : FailedWrite} {r : Run fate}

/-- The steps of a run, for the answers that it gets. Without scripts there is none. -/
def steps (r : Run fate) : List Step :=
  match r.found with
  | [] => []
  | scripts => r.job.steps scripts
      (answered r.job.timeout r.job.ledger.listTables r.trace.sent)
      (answered r.job.timeout r.job.ledger.selectRows r.trace.sent)

/-- The run sends a statement whose step is for the script of that name. -/
def SendsFor (r : Run fate) (name : String) : Prop :=
  ∃ p ∈ r.trace.sent.zip r.steps, p.2.IsFor name

theorem steps_of_found {scripts : List Script} (hfound : r.discovered = .ok scripts)
    (hne : scripts ≠ []) :
    r.steps = r.job.steps scripts (answered r.job.timeout r.job.ledger.listTables r.trace.sent)
      (answered r.job.timeout r.job.ledger.selectRows r.trace.sent) := by
  unfold steps
  rw [found_of_ok hfound]
  cases scripts with
  | nil => exact absurd rfl hne
  | cons script scripts => rfl

/-- What a run sends are the statements of its first steps. -/
theorem sent_follows_steps (r : Run fate) :
    r.trace.sent.map (·.statement) <+: r.job.statementsOf r.steps := by
  by_cases hbegins : r.Begins
  · obtain ⟨scripts, hfound, hne⟩ := hbegins
    have hplan := Job.migrateScripts_failFast r.session r.job scripts
      (version_le_of_discover hfound) r.start
    have hsent : (Task.trace r.session (r.job.migrateScripts scripts) r.start).sent =
        r.trace.sent := by
      rw [trace_eq hfound hne, Job.trace_migrateScripts r.session r.job scripts
        (version_le_of_discover hfound)]
      rfl
    rw [hsent] at hplan
    rw [steps_of_found hfound hne, Job.statementsOf_steps]
    exact hplan.follows
  · rw [(idle_of_not_begins hbegins).1]
    exact List.nil_prefix

/-- A run sends statements only for scripts that are newer than the rows behind its bootstrap. -/
theorem due_of_sendsFor {name : String} (h : r.SendsFor name) :
    r.Begins ∧ ∃ script ∈ pendingAfter (r.job.rowsIn r.view r.bootstrap.state) r.found,
      script.name = name := by
  obtain ⟨p, hp, hfor⟩ := h
  have hbegins : r.Begins := by
    by_contra hnot
    rw [(idle_of_not_begins hnot).1] at hp
    cases hp
  refine ⟨hbegins, ?_⟩
  obtain ⟨scripts, hfound, hne⟩ := hbegins
  rw [steps_of_found hfound hne, Job.steps] at hp
  rw [found_of_ok hfound]
  -- a step up to the scripts is for none of them, so the statement has to come after the bootstrap
  have hopening : ∀ {tables : List Row}, p.2 ∉ r.job.openingSteps tables := by
    intro tables hmem
    have hnone := Job.script?_of_mem_openingSteps hmem .closed
    rw [hfor .closed] at hnone
    cases hnone
  rcases hboot : r.bootstrap.result with error | action
  · -- nothing is sent beyond the bootstrap
    have htrace := trace_eq hfound hne
    rw [Trace.bind_of_error hboot] at htrace
    have hsent : r.trace.sent = r.bootstrap.sent := by rw [htrace]
    obtain ⟨hle, -, -⟩ := Job.sent_bootstrap r.session r.job r.start []
    rw [List.append_nil] at hle
    rw [hsent] at hp
    exact absurd (mem_front_of_mem_zip hp hle) hopening
  · obtain ⟨hsent, -, -⟩ := trace_of_bootstrap hfound hne hboot
    obtain ⟨e, more, hrest, hread, hmore⟩ :=
      Job.sent_resume r.keeps scripts action r.bootstrap.state
    rw [hrest] at hsent
    have hboundary := Job.sent_bootstrap r.session r.job r.start (e :: more)
    have hlength : r.bootstrap.sent.length = (r.job.openingSteps (answered r.job.timeout
        r.job.ledger.listTables (r.bootstrap.sent ++ e :: more))).length :=
      hboundary.2.1 action hboot
    have hothers : ∀ f ∈ r.bootstrap.sent,
        f.statement ≠ r.job.ledger.selectRows.withTimeout r.job.timeout := hboundary.2.2
    rw [hsent] at hp
    rw [List.zip_append hlength, List.mem_append, List.zip_cons_cons, List.mem_cons] at hp
    rcases hp with hp | rfl | hp
    · exact absurd (List.of_mem_zip hp).2 hopening
    · cases hfor .closed
    · rcases hmore with ⟨rfl, -⟩ | ⟨rows, hrows, hdue⟩
      · cases hp
      · rw [answered_append hothers, answered_cons_self hread hrows, hdue] at hp
        exact Job.mem_of_isFor (List.of_mem_zip hp).2 hfor

end Run

end SchemaMigration
