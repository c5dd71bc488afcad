import SchemaMigration.Proofs.Deadline
import SchemaMigration.Proofs.Trace

/-!
# The end of a session

A run and a status close their session exactly once, and then say nothing more to it, however they
end. This is read off the dialogues themselves, so it holds whatever the session replies.

* `Dialogue.KeepsOpen`: in no course the session is closed.
* `Dialogue.EndsSession`: in every course it is closed, and only lines are logged after that.
* `Dialogue.EndsSession.closings`: so it is closed once.
* `Job.endsSession_run` and `Job.endsSession_status`: the tasks of a job.
-/

namespace SchemaMigration

/-! ## Dialogues -/

namespace Dialogue

variable {σ α β : Type}

/-- Whether the session is never closed, whatever it replies. -/
def KeepsOpen : Dialogue α → Prop
  | done _ => True
  | log _ next => KeepsOpen next
  | send _ next => ∀ reply, KeepsOpen (next reply)
  | cancel next => KeepsOpen next
  | close _ => False

/-- Whether nothing is said to the session. -/
def Silent : Dialogue α → Prop
  | done _ => True
  | log _ next => Silent next
  | send _ _ | cancel _ | close _ => False

/-- Whether the session is closed, whatever it replies, and nothing more is said to it after
that. -/
def EndsSession : Dialogue α → Prop
  | done _ => False
  | log _ next => EndsSession next
  | send _ next => ∀ reply, EndsSession (next reply)
  | cancel next => EndsSession next
  | close next => ∀ error, Silent (next error)

theorem KeepsOpen.bind {d : Dialogue α} (hd : d.KeepsOpen) {k : α → Dialogue β}
    (hk : ∀ value, (k value).KeepsOpen) : (d >>= k).KeepsOpen := by
  change (d.bind k).KeepsOpen
  induction d with
  | done result => exact hk result
  | log line next ih => exact ih hd
  | send statement next ih => exact fun reply => ih reply (hd reply)
  | cancel next ih => exact ih hd
  | close next ih => exact hd.elim

theorem KeepsOpen.endsSession {d : Dialogue α} (hd : d.KeepsOpen) {k : α → Dialogue β}
    (hk : ∀ value, (k value).EndsSession) : (d >>= k).EndsSession := by
  change (d.bind k).EndsSession
  induction d with
  | done result => exact hk result
  | log line next ih => exact ih hd
  | send statement next ih => exact fun reply => ih reply (hd reply)
  | cancel next ih => exact ih hd
  | close next ih => exact hd.elim

/-- What says nothing to the session does not depend on it. -/
theorem Silent.play_eq {d : Dialogue α} (hd : d.Silent) (session other : Session σ) (state : σ) :
    play other d state = play session d state := by
  induction d generalizing state with
  | done result => rfl
  | log line next ih => exact congrArg (Course.after _) (ih hd state)
  | send statement next ih => exact hd.elim
  | cancel next ih => exact hd.elim
  | close next ih => exact hd.elim

theorem Silent.events {d : Dialogue α} (hd : d.Silent) (session : Session σ) (state : σ) :
    ∀ event ∈ (play session d state).events, ∃ line, event = .logged line := by
  induction d generalizing state with
  | done result => simp [play]
  | log line next ih => simpa [play, Course.after] using ih hd state
  | send statement next ih => exact hd.elim
  | cancel next ih => exact hd.elim
  | close next ih => exact hd.elim

/-- How often the session is closed in a course. -/
def Course.closings (course : Course σ α) : Nat :=
  course.events.count .closed

theorem Silent.closings {d : Dialogue α} (hd : d.Silent) (session : Session σ) (state : σ) :
    (play session d state).closings = 0 := by
  apply List.count_eq_zero_of_not_mem
  intro hclosed
  obtain ⟨line, hline⟩ := hd.events session state _ hclosed
  cases hline

/-- The session is closed exactly once. -/
theorem EndsSession.closings {d : Dialogue α} (hd : d.EndsSession) (session : Session σ)
    (state : σ) : (play session d state).closings = 1 := by
  induction d generalizing state with
  | done result => exact hd.elim
  | log line next ih => exact ih hd state
  | send statement next ih =>
      exact ih (session.send state statement).1 (hd _) (session.send state statement).2
  | cancel next ih => exact ih hd (session.cancel state)
  | close next ih =>
      have hrest := (hd (session.close state).1).closings session (session.close state).2
      exact (List.count_cons_self ..).trans (congrArg (· + 1) hrest)

end Dialogue

/-! ## Tasks -/

namespace Task

variable {ε α β : Type}

/-- Whether a task never closes the session. -/
def KeepsOpen (task : Task ε α) : Prop :=
  Dialogue.KeepsOpen task.run

theorem keepsOpen_sayAll (lines : List Log.Line) : KeepsOpen (sayAll lines : Task ε Unit) := by
  induction lines with
  | nil => trivial
  | cons line lines ih => exact ih

theorem KeepsOpen.bind {task : Task ε α} (htask : task.KeepsOpen) {next : α → Task ε β}
    (hnext : ∀ value, (next value).KeepsOpen) : (task >>= next).KeepsOpen :=
  Dialogue.KeepsOpen.bind htask fun
    | .ok value => hnext value
    | .error _ => trivial

/-- A late statement is cancelled, which leaves the session open. -/
theorem keepsOpen_execute (timeout : Nat) (statement : Statement) (wrap : SessionError → ε) :
    KeepsOpen (execute timeout statement wrap) := by
  refine Dialogue.KeepsOpen.bind (d := Dialogue.execute timeout statement) ?_ fun _ => trivial
  intro reply
  dsimp only
  split <;> trivial

theorem Limited.keepsOpen {timeout : Nat} {task : Task ε α} (h : task.Limited timeout) :
    task.KeepsOpen := by
  induction h with
  | known result => trivial
  | sayAll lines => exact keepsOpen_sayAll lines
  | execute statement wrap => exact keepsOpen_execute timeout statement wrap
  | bind first rest ih ihrest => exact ih.bind ihrest

end Task

/-! ## Jobs -/

namespace Job

variable {α : Type} (job : Job)

/-- At the end of a task the session is closed, and then nothing is said to it. -/
theorem exists_finish (outcome : Except MigrationError α) :
    ∃ next, (finish outcome).run = .close next ∧ ∀ error, (next error).Silent := by
  refine ⟨_, rfl, fun error => ?_⟩
  rcases outcome with first | value <;> rcases error with _ | closeError <;> trivial

/-- A task that keeps the session open, followed by the end of the session. -/
theorem endsSession_closingAfter {task : Task MigrationError α} (htask : task.KeepsOpen) :
    (closingAfter task).run.EndsSession := by
  refine Dialogue.KeepsOpen.endsSession htask fun outcome => ?_
  obtain ⟨next, hnext, hsilent⟩ := exists_finish outcome
  exact hnext ▸ hsilent

/-- A run closes its session once, and says nothing to it after that. -/
theorem endsSession_run (listing : Listing) : (job.run listing).run.EndsSession :=
  endsSession_closingAfter (job.limited_migrate listing).keepsOpen

/-- A status closes its session once, and says nothing to it after that. -/
theorem endsSession_status (listing : Listing) : (job.status listing).run.EndsSession :=
  endsSession_closingAfter (job.limited_inspect listing).keepsOpen

end Job

end SchemaMigration
