import SchemaMigration.Proofs.Migration.Attribution

/-!
# The agenda of a run

The plan of a run again, with what each statement is for. The answers that the run gets decide what
stands on its agenda, and the first statement that fails decides how it ends.

* `Job.agenda` is the agenda for given answers, and `Job.agendaOf` that of a run over a directory.
* `firstFailure`: what the first statement without success was for, and what it failed with.
* `Session.attempt_agenda`: the first failure decides how an attempt ends.
* `Job.run_failFast_agenda`: a run sends its agenda, up to the first failure.
-/

namespace SchemaMigration

variable {σ : Type}

/-- What a run sends a statement for. -/
inductive Purpose where
  /-- To look for the keyspace, to drop it, or to create it with its ledger. -/
  | bootstrap
  /-- To read the ledger. -/
  | reading
  /-- To run a part of the script of that name. -/
  | script (name : String)
  /-- To record the script of that name. -/
  | record (name : String)
  deriving DecidableEq, Repr

/-- The error of a run that ends with the failure of a statement. -/
def Purpose.blame (l : Ledger) : Purpose → SessionError → MigrationError
  | .bootstrap, e => .bootstrap l.keyspace.text e
  | .reading, e => .ledgerRead l.qualified e
  | .script name, e => .script name e
  | .record name, e => .ledgerWrite name l.qualified e.message

/-- A statement that a run means to send, and what for. -/
structure Item where
  purpose : Purpose
  statement : Statement

/-- An item as a step of the run. -/
def Item.step (l : Ledger) (item : Item) : Step :=
  ⟨item.statement, item.purpose.blame l⟩

namespace Job

variable {job : Job}

/-- The items up to the scripts, for the tables of the keyspace. -/
def openingAgenda (job : Job) (tables : List Row) : List Item :=
  (job.openingSteps tables).map fun step => ⟨.bootstrap, step.statement⟩

/-- The items of a script: its statements in order, then its record. -/
def scriptAgenda (job : Job) (number : Nat) (script : Script) : List Item :=
  script.statements.map (fun text => ⟨.script script.name, .execute text []⟩) ++
    [⟨.record script.name,
      job.ledger.insertRow (job.rowId number) script.version script⟩]

/-- The items of scripts in order, the first one under the given number. -/
def dueAgenda (job : Job) : Nat → List Script → List Item
  | _, [] => []
  | number, script :: scripts => job.scriptAgenda number script ++ dueAgenda job (number + 1) scripts

/-- The agenda of a run with scripts, for the tables of the keyspace and the rows of the ledger. -/
def agenda (job : Job) (scripts : List Script) (tables rows : List Row) : List Item :=
  job.openingAgenda tables ++
    ⟨.reading, job.ledger.selectRows⟩ :: job.dueAgenda 0 (job.dueScripts scripts rows)

/-- The agenda of a run over a directory, for the answers that it gets. Without a script nothing
stands on it. -/
def agendaOf (job : Job) (listing : Listing) (sent : List (Exchange σ)) : List Item :=
  match (discover job.naming job.config.scriptDirectory listing).result with
  | .error _ => []
  | .ok scripts =>
    if scripts.isEmpty then []
    else job.agenda scripts (answered job.timeout job.ledger.listTables sent)
      (answered job.timeout job.ledger.selectRows sent)

theorem map_openingAgenda (tables : List Row) :
    (job.openingAgenda tables).map (Item.step job.ledger) = job.openingSteps tables := by
  have hstep : ∀ step ∈ job.openingSteps tables,
      Item.step job.ledger ⟨.bootstrap, step.statement⟩ = step := by
    intro step hstep
    rcases step with ⟨statement, blame⟩
    have hblame : blame = job.ledger.bootstrapError := blame_of_mem_openingSteps hstep
    rw [hblame]
    rfl
  rw [openingAgenda, List.map_map]
  exact (List.map_congr_left hstep).trans (List.map_id _)

theorem map_dueAgenda (number : Nat) (scripts : List Script) :
    (job.dueAgenda number scripts).map (Item.step job.ledger) = job.dueSteps number scripts := by
  induction scripts generalizing number with
  | nil => rfl
  | cons script scripts ih =>
      rw [dueAgenda, dueSteps, List.map_append, ih]
      congr 1
      simp only [scriptAgenda, scriptSteps, List.map_append, List.map_map]
      rfl

/-- The items of the agenda are the steps of the run. -/
theorem map_agenda (scripts : List Script) (tables rows : List Row) :
    (job.agenda scripts tables rows).map (Item.step job.ledger) =
      job.steps scripts tables rows := by
  rw [agenda, steps, List.map_append, List.map_cons, map_openingAgenda, map_dueAgenda]
  rfl

end Job

/-! ## The first failure -/

/-- The first of the statements sent that has not succeeded: what it was for, and what it is said to
have failed with. -/
def firstFailure (timeout : Nat) (agenda : List Item) (sent : List (Exchange σ)) :
    Option (Purpose × SessionError) :=
  (sent.zip agenda).findSome? fun p =>
    if p.1.Succeeded timeout then none
    else some (p.2.purpose, p.1.reply.fault timeout p.2.statement)

@[simp] theorem firstFailure_nil (timeout : Nat) (agenda : List Item) :
    firstFailure timeout agenda ([] : List (Exchange σ)) = none := rfl

theorem firstFailure_cons_of_succeeded {timeout : Nat} {e : Exchange σ} (h : e.Succeeded timeout)
    (item : Item) (agenda : List Item) (sent : List (Exchange σ)) :
    firstFailure timeout (item :: agenda) (e :: sent) = firstFailure timeout agenda sent := by
  simp [firstFailure, h]

theorem firstFailure_cons_of_not_succeeded {timeout : Nat} {e : Exchange σ}
    (h : ¬ e.Succeeded timeout) (item : Item) (agenda : List Item) (sent : List (Exchange σ)) :
    firstFailure timeout (item :: agenda) (e :: sent) =
      some (item.purpose, e.reply.fault timeout item.statement) := by
  simp [firstFailure, h]

theorem firstFailure_of_succeeded {timeout : Nat} {sent : List (Exchange σ)}
    (h : ∀ e ∈ sent, e.Succeeded timeout) (agenda : List Item) :
    firstFailure timeout agenda sent = none := by
  rw [firstFailure, List.findSome?_eq_none_iff]
  intro p hp
  simp [h p.1 (List.of_mem_zip hp).1]

theorem exists_of_firstFailure {timeout : Nat} {agenda : List Item} {sent : List (Exchange σ)}
    {failure : Purpose × SessionError} (h : firstFailure timeout agenda sent = some failure) :
    ∃ e ∈ sent, ¬ e.Succeeded timeout := by
  by_contra hnot
  push Not at hnot
  rw [firstFailure_of_succeeded hnot] at h
  cases h

/-- A failure behind nothing but successes is the first one. -/
theorem firstFailure_append_single {timeout : Nat} {agenda : List Item} {item : Item}
    {before : List (Exchange σ)} {e : Exchange σ} (hbefore : ∀ f ∈ before, f.Succeeded timeout)
    (he : ¬ e.Succeeded timeout) (hitem : agenda[before.length]? = some item) :
    firstFailure timeout agenda (before ++ [e]) =
      some (item.purpose, e.reply.fault timeout item.statement) := by
  induction before generalizing agenda with
  | nil =>
      cases agenda with
      | nil => simp at hitem
      | cons first agenda =>
          obtain rfl : first = item := by simpa using hitem
          exact firstFailure_cons_of_not_succeeded he first agenda []
  | cons f before ih =>
      obtain ⟨hf, hbefore⟩ := List.forall_mem_cons.mp hbefore
      cases agenda with
      | nil => simp at hitem
      | cons first agenda =>
          rw [List.cons_append, firstFailure_cons_of_succeeded hf]
          exact ih hbefore (by simpa using hitem)

/-- How an attempt of some items ends is decided by the first failure. -/
theorem Session.attempt_agenda (session : Session σ) (l : Ledger) (timeout : Nat)
    (agenda : List Item) (state : σ) :
    let t := session.attempt timeout (agenda.map (Item.step l)) state
    t.result = match firstFailure timeout agenda t.sent with
      | none => .ok ()
      | some (purpose, error) => .error (purpose.blame l error) := by
  induction agenda generalizing state with
  | nil => rfl
  | cons item agenda ih =>
      obtain ⟨e, -, -, hsent, ⟨rows, hrows, hok⟩ | ⟨hrows, herror⟩⟩ :=
        session.ask_cases timeout item.statement (item.purpose.blame l) state
      · have he : e.Succeeded timeout := Exchange.succeeded_iff.mpr ⟨rows, hrows⟩
        simp only [List.map_cons, Session.attempt, Item.step]
        rw [Trace.bind_of_ok hok, hsent, List.singleton_append, firstFailure_cons_of_succeeded he]
        exact ih _
      · have he : ¬ e.Succeeded timeout := Exchange.not_succeeded_iff.mpr hrows
        simp only [List.map_cons, Session.attempt, Item.step]
        rw [Trace.bind_of_error herror, hsent, firstFailure_cons_of_not_succeeded he]

/-! ## Sending the agenda -/

/-- What is sent stands on the agenda. -/
theorem FailFast.exists_item {timeout : Nat} {agenda : List Item} {before after : List (Exchange σ)}
    {e : Exchange σ} (h : FailFast timeout (agenda.map (·.statement.withTimeout timeout))
      (before ++ e :: after)) :
    ∃ item, agenda[before.length]? = some item ∧
      e.statement = item.statement.withTimeout timeout := by
  have hsome := List.prefix_iff_getElem?.mp h.follows before.length (by simp)
  simpa [eq_comm] using hsome

namespace Job

variable (session : Session σ)

theorem agendaOf_of_found {job : Job} {listing : Listing} {scripts : List Script}
    (hfound : (discover job.naming job.config.scriptDirectory listing).result = .ok scripts)
    (hne : scripts ≠ []) (sent : List (Exchange σ)) :
    job.agendaOf listing sent = job.agenda scripts
      (answered job.timeout job.ledger.listTables sent)
      (answered job.timeout job.ledger.selectRows sent) := by
  have hempty : ¬ scripts.isEmpty = true := by simpa using hne
  simp only [agendaOf, hfound, hempty, if_false, Bool.false_eq_true]

/-- Up to the end of the session, a run sends its agenda, up to the first statement that fails. -/
theorem migrate_failFast_agenda (job : Job) (listing : Listing) (state : σ) :
    let sent := (Task.trace session (job.migrate listing) state).sent
    FailFast job.timeout ((job.agendaOf listing sent).map (·.statement.withTimeout job.timeout))
      sent := by
  intro sent
  have hsent : sent = _ := congrArg Trace.sent (trace_migrate session job listing state)
  rcases hfound : (discover job.naming job.config.scriptDirectory listing).result with
    error | scripts
  · simp only [hfound] at hsent
    simpa [hsent, agendaOf, hfound] using FailFast.nil
  · by_cases hne : scripts = []
    · simp only [hfound, hne, List.isEmpty_nil, if_true] at hsent
      simpa [hsent, agendaOf, hfound, hne] using FailFast.nil
    · have hempty : ¬ scripts.isEmpty = true := by simpa using hne
      simp only [hfound, hempty, if_false, Bool.false_eq_true] at hsent
      have hplan := job.migrateScripts_failFast session scripts (version_le_of_discover hfound)
        state
      rw [← hsent, ← statementsOf_steps, ← map_agenda, ← agendaOf_of_found hfound hne] at hplan
      simpa [statementsOf, Item.step, Function.comp_def] using hplan

/-- The end of the session adds no statement to that. -/
theorem run_failFast_agenda (job : Job) (listing : Listing) (state : σ) :
    let sent := Dialogue.exchanges session (job.run listing).run state
    FailFast job.timeout ((job.agendaOf listing sent).map (·.statement.withTimeout job.timeout))
      sent := by
  intro sent
  have hsent : sent = (Task.trace session (job.migrate listing) state).sent :=
    congrArg Trace.sent (trace_closingAfter session (job.migrate listing) state)
  rw [hsent]
  exact migrate_failFast_agenda session job listing state

end Job

end SchemaMigration
