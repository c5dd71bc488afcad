import SchemaMigration.Proofs.Lateness
import SchemaMigration.Proofs.Migration.Blame
import SchemaMigration.Proofs.Migration.Run

/-!
# Runs with late statements

A run sends every statement under its deadline. The first one that takes longer is the last one: it
is cancelled, the session is closed, and the run fails with what the statement was for. Nothing of
this depends on what the answer would have been.

* `Job.closingAfter_cases`: where in a course a statement is cancelled.
* `Job.cancels_closingAfter`: how often that happens.
* `Job.Overruns`: what becomes of a run with a late statement.
* `Job.run_cancels_late`: a run cancels late statements and nothing else.
-/

namespace SchemaMigration

variable {σ α : Type} {timeout : Nat}

/-- How often a statement is cancelled in a course. -/
def Dialogue.Course.cancels (course : Dialogue.Course σ α) : Nat :=
  course.events.count .cancelled

/-! ## Tasks with the end of the session -/

namespace Job

theorem play_finish {session other : Session σ} (hsame : session.SameInTime timeout other)
    (outcome : Except MigrationError α) (state : σ) :
    Dialogue.play other (finish outcome).run state =
      Dialogue.play session (finish outcome).run state := by
  obtain ⟨next, hnext, hsilent⟩ := exists_finish outcome
  simp only [hnext, Dialogue.play, hsame.close]
  rw [(hsilent _).play_eq session other]

/-- With a session that differs in the answers of late statements only, everything is the same. -/
theorem play_closingAfter {task : Task MigrationError α} (h : task.CancelsLate timeout)
    {session other : Session σ} (hsame : session.SameInTime timeout other) (state : σ) :
    Dialogue.play other (closingAfter task).run state =
      Dialogue.play session (closingAfter task).run state :=
  Dialogue.CancelsLate.play_bind h hsame (k := fun outcome => (finish outcome).run)
    (play_finish hsame) state

theorem events_finish (outcome : Except MigrationError α) (session : Session σ) (state : σ) :
    ∃ back, (Dialogue.play session (finish outcome).run state).events = .closed :: back ∧
      ∀ event ∈ back, ∃ line, event = .logged line := by
  obtain ⟨next, hnext, hsilent⟩ := exists_finish outcome
  rw [hnext]
  exact ⟨_, rfl, (hsilent _).events session _⟩

/-- In the course of a task with the end of the session there is no late statement, and nothing is
cancelled; or the last statement is late, and it is cancelled before the session is closed. -/
theorem closingAfter_cases {task : Task MigrationError α} (h : task.CancelsLate timeout)
    (session : Session σ) (state : σ) :
    let events := (Dialogue.play session (closingAfter task).run state).events
    let sent := Dialogue.exchanges session (closingAfter task).run state
    (.cancelled ∉ events ∧ ∀ e ∈ sent, e.reply.elapsed ≤ timeout) ∨
      ∃ before e front back, sent = before ++ [e] ∧ timeout < e.reply.elapsed ∧
        (∀ f ∈ before, f.reply.elapsed ≤ timeout) ∧ .cancelled ∉ front ∧
        (∀ event ∈ back, ∃ line, event = .logged line) ∧
        events = front ++ .sent e.statement ::
          .logged (Dialogue.lateLine timeout e.statement.text) :: .cancelled :: .closed ::
            back := by
  intro events sent
  have hsent : sent = Dialogue.exchanges session task.run state :=
    congrArg Trace.sent (trace_closingAfter session task state)
  have hevents : events = _ :=
    Dialogue.events_bind session task.run (fun outcome => (finish outcome).run) state
  obtain ⟨back, hback, hlines⟩ := events_finish (Dialogue.play session task.run state).result
    session (Dialogue.play session task.run state).state
  rw [hback] at hevents
  rw [hsent]
  rcases Dialogue.CancelsLate.course_cases h session state with ⟨hnone, hintime⟩ |
    ⟨before, e, front, hbefore, hlate, hintime, hfront, hcourse⟩
  · refine .inl ⟨?_, hintime⟩
    rw [hevents]
    simp only [List.mem_append, List.mem_cons, reduceCtorEq, false_or, not_or]
    refine ⟨hnone, fun hmem => ?_⟩
    obtain ⟨line, hline⟩ := hlines _ hmem
    cases hline
  · refine .inr ⟨before, e, front, back, hbefore, hlate, hintime, hfront, hlines, ?_⟩
    rw [hevents, hcourse]
    simp

/-- A statement is cancelled once if there is a late one, and otherwise never. -/
theorem cancels_closingAfter {task : Task MigrationError α} (h : task.CancelsLate timeout)
    (session : Session σ) (state : σ) :
    (Dialogue.play session (closingAfter task).run state).cancels =
      if ∃ e ∈ Dialogue.exchanges session (closingAfter task).run state, timeout < e.reply.elapsed
      then 1 else 0 := by
  unfold Dialogue.Course.cancels
  rcases closingAfter_cases h session state with ⟨hnone, hintime⟩ |
    ⟨before, e, front, back, hsent, hlate, -, hfront, hback, hevents⟩
  · rw [if_neg (by simpa using hintime)]
    exact List.count_eq_zero_of_not_mem hnone
  · have hlines : .cancelled ∉ back := by
      intro hmem
      obtain ⟨line, hline⟩ := hback _ hmem
      cases hline
    rw [if_pos ⟨e, by simp [hsent], hlate⟩, hevents]
    simp [List.count_eq_zero_of_not_mem hfront, List.count_eq_zero_of_not_mem hlines]

/-! ## Runs -/

/-- What becomes of a run that has sent a statement that is late, behind others. The others have
succeeded. Right after the late one there is a line about it, it is cancelled, and the session is
closed, after which there are only lines. The run fails, for what the statement was for, because it
took longer than the deadline. -/
structure Overruns (job : Job) (agenda : List Item) (before : List (Exchange σ)) (late : Exchange σ)
    (course : Dialogue.Course σ (Except MigrationError Report)) : Prop where
  succeeded : ∀ f ∈ before, f.Succeeded job.timeout
  cancelled : ∃ front back,
    course.events = front ++ .sent late.statement ::
      .logged (Dialogue.lateLine job.timeout late.statement.text) :: .cancelled :: .closed :: back ∧
    .cancelled ∉ front ∧ ∀ event ∈ back, ∃ line, event = .logged line
  blamed : ∃ item, agenda[before.length]? = some item ∧
    late.statement = item.statement.withTimeout job.timeout ∧
    course.result = .error
      (item.purpose.blame job.ledger (.timeout late.statement.text job.timeout))

/-- A run whose last statement fails reports that failure. -/
theorem run_of_failure (session : Session σ) (job : Job) (listing : Listing) (state : σ)
    {before : List (Exchange σ)} {e : Exchange σ} {item : Item}
    (hsent : Dialogue.exchanges session (job.run listing).run state = before ++ [e])
    (hbefore : ∀ f ∈ before, f.Succeeded job.timeout) (he : ¬ e.Succeeded job.timeout)
    (hitem : (job.agendaOf listing (before ++ [e]))[before.length]? = some item) :
    (Dialogue.play session (job.run listing).run state).result =
      .error (item.purpose.blame job.ledger (e.reply.fault job.timeout item.statement)) := by
  have htrace := trace_closingAfter session (job.migrate listing) state
  have hmigrate : (Task.trace session (job.migrate listing) state).sent = before ++ [e] :=
    (congrArg Trace.sent htrace).symm.trans hsent
  have hwent : job.Went listing (Task.trace session (job.migrate listing) state).sent _ :=
    migrate_went session job listing state
  rw [hmigrate] at hwent
  have hresult : (Dialogue.play session (job.run listing).run state).result = _ :=
    congrArg Trace.result htrace
  rw [hresult, hwent.result_of_failure hbefore he hitem, closed_error]

/-- Where a statement is late, the run overruns with it. -/
theorem overruns_of_late (session : Session σ) (job : Job) (listing : Listing) (state : σ)
    {e : Exchange σ} (he : e ∈ Dialogue.exchanges session (job.run listing).run state)
    (hlate : job.timeout < e.reply.elapsed) :
    let course := Dialogue.play session (job.run listing).run state
    let sent := Dialogue.exchanges session (job.run listing).run state
    ∃ before, sent = before ++ [e] ∧ job.Overruns (job.agendaOf listing sent) before e course := by
  intro course sent
  have hfast : FailFast job.timeout
      ((job.agendaOf listing sent).map (·.statement.withTimeout job.timeout)) sent :=
    run_failFast_agenda session job listing state
  rcases closingAfter_cases (job.limited_migrate listing).cancelsLate session state with
    ⟨-, hintime⟩ | ⟨before, last, front, back, hsent, -, hbefore, hfront, hback, hevents⟩
  · exact absurd (hintime e he) (by omega)
  · change sent = before ++ [last] at hsent
    change e ∈ sent at he
    -- the other statements are in time
    obtain rfl : e = last := by
      rw [hsent, List.mem_append, List.mem_singleton] at he
      exact he.resolve_left fun hmem => absurd (hbefore e hmem) (by omega)
    have hnot : ¬ e.Succeeded job.timeout := fun h => absurd h.1 (by omega)
    rw [hsent] at hfast ⊢
    obtain ⟨item, hitem, hstatement⟩ := hfast.exists_item
    have hresult := run_of_failure session job listing state hsent hfast.succeeded_of_append hnot
      hitem
    simp only [Reply.fault, hlate, if_true] at hresult
    refine ⟨before, rfl, hfast.succeeded_of_append, ⟨front, back, hevents, hfront, hback⟩, item,
      hitem, hstatement, ?_⟩
    rw [hstatement]
    exact hresult

/-- **A run cancels late statements and nothing else.** With any session, however long it takes for
each statement, a run sends the first statements of its agenda, each with the deadline for its
timeout and otherwise as it is, and closes the session once. It cancels one statement if some
statement is late, and otherwise none. The late statement is the last one, and it ends the run. Its
answer makes no difference: with any session that differs in the answers to late statements only,
the run takes the same course. -/
theorem run_cancels_late (session : Session σ) (job : Job) (listing : Listing) (state : σ) :
    let course := Dialogue.play session (job.run listing).run state
    let sent := Dialogue.exchanges session (job.run listing).run state
    let agenda := job.agendaOf listing sent
    course.statements = sent.map (·.statement) ∧
      sent.map (·.statement) <+: agenda.map (·.statement.withTimeout job.timeout) ∧
      course.closings = 1 ∧
      course.cancels = (if ∃ e ∈ sent, job.timeout < e.reply.elapsed then 1 else 0) ∧
      (∀ e ∈ sent, job.timeout < e.reply.elapsed →
        ∃ before, sent = before ++ [e] ∧ job.Overruns agenda before e course) ∧
      ∀ other : Session σ, session.SameInTime job.timeout other →
        Dialogue.play other (job.run listing).run state = course := by
  intro course sent agenda
  have hcancels := (job.limited_migrate listing).cancelsLate
  refine ⟨Dialogue.statements_play session _ state,
    (run_failFast_agenda session job listing state).follows,
    (job.endsSession_run listing).closings session state,
    cancels_closingAfter hcancels session state, ?_, ?_⟩
  · intro e he hlate
    exact overruns_of_late session job listing state he hlate
  · intro other hsame
    exact play_closingAfter hcancels hsame state

end Job

namespace Sample

/-- A session in which one statement takes twenty seconds, whatever it would answer then. -/
def slow (answer : Except SessionError Answer) : Session Unit where
  backend := "slow"
  dialect := .cql
  send _ statement :=
    (if statement.text = "SELECT 1" then ⟨20000, answer⟩ else ⟨0, .ok (.ofRows [])⟩, ())
  cancel := id
  close state := (none, state)

theorem slow_sameInTime (answer other : Except SessionError Answer) :
    (slow answer).SameInTime job.timeout (slow other) where
  reply _ statement := by
    by_cases hslow : statement.text = "SELECT 1"
    · exact .inr (by simp only [slow, hslow, if_true]; decide)
    · exact .inl (by simp only [slow, hslow, if_false])
  after _ _ := rfl
  cancel := rfl
  close := rfl

end Sample

/-- A run in which the statement of the first script is late, with two answers to it. -/
theorem Job.run_cancels_late_sample :
    let session := Sample.slow (.ok (.ofRows []))
    let other := Sample.slow (.ok .notApplied)
    let course := Dialogue.play session (Sample.job.run Sample.listing).run ()
    let sent := Dialogue.exchanges session (Sample.job.run Sample.listing).run ()
    let agenda := Sample.job.agendaOf Sample.listing sent
    course.result = .error (.script "V001__a.cql" (.timeout "SELECT 1" 10000)) ∧
      course.cancels = 1 ∧
      (∃ before e, sent = before ++ [e] ∧ e.statement.text = "SELECT 1" ∧
        Sample.job.timeout < e.reply.elapsed ∧ Sample.job.Overruns agenda before e course) ∧
      session.SameInTime Sample.job.timeout other ∧
      Dialogue.play other (Sample.job.run Sample.listing).run () = course := by
  intro session other course sent agenda
  have htrace := Job.trace_run_of_closes session Sample.job (fun _ => rfl)
    (Sample.discovered (fun _ => false) Store.empty) (List.cons_ne_nil _ _) ()
  have hresult : course.result = _ := congrArg Trace.result htrace
  have hsent : sent = _ := congrArg Trace.sent htrace
  obtain ⟨-, -, -, hcancels, hlate, hsame⟩ :=
    Job.run_cancels_late session Sample.job Sample.listing ()
  have hexists : ∃ e ∈ sent, e.statement.text = "SELECT 1" ∧
      Sample.job.timeout < e.reply.elapsed := by
    rw [hsent]
    decide +kernel
  obtain ⟨e, he, htext, helapsed⟩ := hexists
  obtain ⟨before, hlast, hoverruns⟩ := hlate e he helapsed
  have hother := Sample.slow_sameInTime (.ok (.ofRows [])) (.ok .notApplied)
  refine ⟨?_, hcancels.trans (if_pos ⟨e, he, helapsed⟩),
    ⟨before, e, hlast, htext, helapsed, hoverruns⟩, hother, hsame other hother⟩
  rw [hresult]
  decide +kernel

end SchemaMigration
