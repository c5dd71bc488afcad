import Mathlib.Tactic.Common
import SchemaMigration.Dialogue

/-!
# Traces of tasks

What a task comes to with a session, apart from its log: the result, the session's state at the end,
and the statements sent, each with its reply. A trace is built up like the task itself.

* `Exchange.Succeeded`: in time, without an error, and applied.
* `Task.trace_bind`: the trace of two tasks in sequence.
* `Task.trace_execute`: the trace of a single statement.
* `Dialogue.statements_play`: the exchanges are the statements of the course.
* `Dialogue.Course.filter_lines`: what is shown of a course.
-/

namespace SchemaMigration

/-- A statement as it was sent, with the reply it got and the session's state right after it. -/
structure Exchange (σ : Type) where
  statement : Statement
  reply : Reply
  after : σ

namespace Reply

/-- The rows of a reply to a statement that succeeded: in time, without an error, and applied. -/
def rows? (timeout : Nat) (reply : Reply) : Option (List Row) :=
  if timeout < reply.elapsed then none
  else match reply.answer with
    | .ok answer => if answer.applied then some answer.rows else none
    | .error _ => none

/-- What a statement is said to have failed with, for a reply without success. Lateness goes before
whatever the answer would have been. -/
def fault (timeout : Nat) (statement : Statement) (reply : Reply) : SessionError :=
  if timeout < reply.elapsed then .timeout statement.text timeout
  else match reply.answer with
    | .ok _ => .notApplied statement.text
    | .error error => error

end Reply

namespace Exchange

variable {σ : Type}

/-- Whether the statement completed within the timeout, without an error, and was applied. -/
def Succeeded (timeout : Nat) (e : Exchange σ) : Prop :=
  e.reply.elapsed ≤ timeout ∧ ∃ rows, e.reply.answer = .ok (.ofRows rows)

theorem succeeded_iff {timeout : Nat} {e : Exchange σ} :
    e.Succeeded timeout ↔ ∃ rows, e.reply.rows? timeout = some rows := by
  unfold Succeeded Reply.rows?
  by_cases hlate : timeout < e.reply.elapsed
  · have hnot : ¬ e.reply.elapsed ≤ timeout := by omega
    simp [hlate, hnot]
  · have hle : e.reply.elapsed ≤ timeout := by omega
    rcases hanswer : e.reply.answer with error | ⟨applied, rows⟩
    · simp [hlate]
    · cases applied <;> simp [hlate, hle, Answer.ofRows]

instance (timeout : Nat) (e : Exchange σ) : Decidable (e.Succeeded timeout) :=
  decidable_of_iff ((e.reply.rows? timeout).isSome = true) (by
    rw [succeeded_iff, Option.isSome_iff_exists])

theorem not_succeeded_iff {timeout : Nat} {e : Exchange σ} :
    ¬ e.Succeeded timeout ↔ e.reply.rows? timeout = none := by
  rw [succeeded_iff]
  cases e.reply.rows? timeout <;> simp

end Exchange

/-! ## Exchanges of a dialogue -/

namespace Dialogue

variable {σ α β : Type} (session : Session σ)

/-- The statements sent in the course of a dialogue, with their replies. -/
def exchanges : Dialogue α → σ → List (Exchange σ)
  | done _, _ => []
  | log _ next, state => exchanges next state
  | send statement next, state =>
    let (reply, state) := session.send state statement
    ⟨statement, reply, state⟩ :: exchanges (next reply) state
  | cancel next, state => exchanges next (session.cancel state)
  | close next, state =>
    let (error, state) := session.close state
    exchanges (next error) state

/-- The exchanges belong to the statements that the course of the dialogue sends. -/
theorem statements_play (d : Dialogue α) (state : σ) :
    (play session d state).statements = (exchanges session d state).map (·.statement) := by
  induction d generalizing state with
  | done result => rfl
  | log line next ih => exact ih state
  | send statement next ih =>
      have hnext := ih (session.send state statement).1 (session.send state statement).2
      simp only [play, exchanges, Course.statements, Course.after, List.filterMap_cons,
        List.map_cons] at hnext ⊢
      rw [hnext]
  | cancel next ih => exact ih (session.cancel state)
  | close next ih => exact ih (session.close state).1 (session.close state).2

/-- Where no lines about statements are shown, what is shown of a course is what is logged. -/
theorem Course.filter_lines {course : Course σ α} {backend : String} {shows : Log.Line → Bool}
    (h : ∀ statement, shows (sendingLine backend statement) = false) :
    (course.lines backend).filter shows = course.logs.filter shows := by
  rw [lines, logs, List.filter_filterMap, List.filter_filterMap]
  congr 1
  funext event
  cases event with
  | logged line => rfl
  | sent statement => simp [Option.filter, h]
  | cancelled => rfl
  | closed => rfl

theorem play_bind (d : Dialogue α) (k : α → Dialogue β) (state : σ) :
    (play session (d >>= k) state).result =
        (play session (k (play session d state).result) (play session d state).state).result ∧
      (play session (d >>= k) state).state =
        (play session (k (play session d state).result) (play session d state).state).state := by
  change (play session (d.bind k) state).result = _ ∧ (play session (d.bind k) state).state = _
  induction d generalizing state with
  | done result => exact ⟨rfl, rfl⟩
  | log line next ih => exact ih state
  | send statement next ih =>
      exact ih (session.send state statement).1 (session.send state statement).2
  | cancel next ih => exact ih (session.cancel state)
  | close next ih => exact ih (session.close state).1 (session.close state).2

theorem events_bind (d : Dialogue α) (k : α → Dialogue β) (state : σ) :
    (play session (d >>= k) state).events = (play session d state).events ++
      (play session (k (play session d state).result) (play session d state).state).events := by
  change (play session (d.bind k) state).events = _
  induction d generalizing state with
  | done result => rfl
  | log line next ih => exact congrArg (List.cons _) (ih state)
  | send statement next ih =>
      exact congrArg (List.cons _)
        (ih (session.send state statement).1 (session.send state statement).2)
  | cancel next ih => exact congrArg (List.cons _) (ih (session.cancel state))
  | close next ih =>
      exact congrArg (List.cons _) (ih (session.close state).1 (session.close state).2)

theorem exchanges_bind (d : Dialogue α) (k : α → Dialogue β) (state : σ) :
    exchanges session (d >>= k) state = exchanges session d state ++
      exchanges session (k (play session d state).result) (play session d state).state := by
  change exchanges session (d.bind k) state = _
  induction d generalizing state with
  | done result => rfl
  | log line next ih => exact ih state
  | send statement next ih =>
      exact congrArg (List.cons _)
        (ih (session.send state statement).1 (session.send state statement).2)
  | cancel next ih => exact ih (session.cancel state)
  | close next ih => exact ih (session.close state).1 (session.close state).2

end Dialogue

/-! ## Traces -/

/-- What a task comes to: its result, the session's state at the end, and what was exchanged. -/
structure Trace (σ ε α : Type) where
  result : Except ε α
  state : σ
  sent : List (Exchange σ)

namespace Trace

variable {σ ε α β γ : Type}

/-- A trace that goes on, unless it ends with an error. -/
def bind (first : Trace σ ε α) (next : α → σ → Trace σ ε β) : Trace σ ε β :=
  match first.result with
  | .ok value =>
    { next value first.state with sent := first.sent ++ (next value first.state).sent }
  | .error error => ⟨.error error, first.state, first.sent⟩

/-- A trace with its value replaced. -/
def map (f : α → β) (t : Trace σ ε α) : Trace σ ε β :=
  ⟨t.result.map f, t.state, t.sent⟩

@[simp] theorem map_ok (f : α → β) (value : α) (state : σ) (sent : List (Exchange σ)) :
    map f (⟨.ok value, state, sent⟩ : Trace σ ε α) = ⟨.ok (f value), state, sent⟩ := rfl

@[simp] theorem map_error (f : α → β) (error : ε) (state : σ) (sent : List (Exchange σ)) :
    map f (⟨.error error, state, sent⟩ : Trace σ ε α) = ⟨.error error, state, sent⟩ := rfl

@[simp] theorem map_map (t : Trace σ ε α) (f : α → β) (g : β → γ) :
    (t.map f).map g = t.map fun value => g (f value) := by
  rcases t with ⟨error | value, state, sent⟩ <;> rfl

theorem bind_of_ok {t : Trace σ ε α} {value : α} (h : t.result = .ok value)
    (next : α → σ → Trace σ ε β) :
    t.bind next =
      { next value t.state with sent := t.sent ++ (next value t.state).sent } := by
  simp only [bind, h]

theorem bind_of_error {t : Trace σ ε α} {error : ε} (h : t.result = .error error)
    (next : α → σ → Trace σ ε β) : t.bind next = ⟨.error error, t.state, t.sent⟩ := by
  simp only [bind, h]

@[simp] theorem pure_bind (value : α) (state : σ) (next : α → σ → Trace σ ε β) :
    bind ⟨.ok value, state, []⟩ next = next value state := rfl

@[simp] theorem bind_pure (t : Trace σ ε α) (f : α → β) :
    t.bind (fun value state => ⟨.ok (f value), state, []⟩) = t.map f := by
  rcases h : t.result with error | value
  · simp [bind_of_error h, map, h, Except.map]
  · simp [bind_of_ok h, map, h, Except.map]

theorem bind_assoc (t : Trace σ ε α) (f : α → σ → Trace σ ε β) (g : β → σ → Trace σ ε γ) :
    (t.bind f).bind g = t.bind fun value state => (f value state).bind g := by
  rcases h : t.result with error | value
  · simp only [bind_of_error h]
    rfl
  · simp only [bind_of_ok h]
    rcases h' : (f value t.state).result with error | value'
    · simp only [bind, h']
    · simp only [bind, h', List.append_assoc]

@[simp] theorem map_bind (t : Trace σ ε α) (f : α → β) (g : β → σ → Trace σ ε γ) :
    (t.map f).bind g = t.bind fun value state => g (f value) state := by
  rcases h : t.result with error | value <;> simp [bind, map, h, Except.map]

@[simp] theorem bind_map (t : Trace σ ε α) (f : α → σ → Trace σ ε β) (g : β → γ) :
    (t.bind f).map g = t.bind fun value state => (f value state).map g := by
  rcases h : t.result with error | value <;> simp [bind, map, h, Except.map]

end Trace

/-- The trace of a statement: a success goes on with its rows, anything else is an error. A late
statement is cancelled. -/
def Session.ask {σ ε : Type} (session : Session σ) (timeout : Nat) (statement : Statement)
    (wrap : SessionError → ε) (state : σ) : Trace σ ε Answer :=
  let (reply, after) := session.send state (statement.withTimeout timeout)
  let sent := [⟨statement.withTimeout timeout, reply, after⟩]
  match reply.rows? timeout with
  | some rows => ⟨.ok (.ofRows rows), after, sent⟩
  | none =>
    ⟨.error (wrap (reply.fault timeout statement)),
      if timeout < reply.elapsed then session.cancel after else after, sent⟩

namespace Task

variable {σ ε α β : Type} (session : Session σ)

/-- The trace of a task with a session that is in some state. -/
def trace (task : Task ε α) (state : σ) : Trace σ ε α where
  result := (Dialogue.play session task.run state).result
  state := (Dialogue.play session task.run state).state
  sent := Dialogue.exchanges session task.run state

@[simp] theorem trace_pure (value : α) (state : σ) :
    trace session (pure value : Task ε α) state = ⟨.ok value, state, []⟩ := rfl

@[simp] theorem trace_throw (error : ε) (state : σ) :
    trace session (throw error : Task ε α) state = ⟨.error error, state, []⟩ := rfl

@[simp] theorem trace_say (level : Log.Level) (component : Log.Component) (text : String)
    (state : σ) :
    trace session (say level component text : Task ε Unit) state = ⟨.ok (), state, []⟩ := rfl

@[simp] theorem trace_sayAll (lines : List Log.Line) (state : σ) :
    trace session (sayAll lines : Task ε Unit) state = ⟨.ok (), state, []⟩ := by
  induction lines with
  | nil => rfl
  | cons line lines ih => exact ih

@[simp] theorem trace_ofExcept (result : Except ε α) (state : σ) :
    trace session (ofExcept result) state = ⟨result, state, []⟩ := rfl

/-- The second task goes on where the first one ends, unless that is an error. -/
@[simp] theorem trace_bind (task : Task ε α) (next : α → Task ε β) (state : σ) :
    trace session (task >>= next) state =
      (trace session task state).bind fun value state => trace session (next value) state := by
  have hplay := Dialogue.play_bind session task.run (ExceptT.bindCont next) state
  have hsent := Dialogue.exchanges_bind session task.run (ExceptT.bindCont next) state
  rcases hresult : (Dialogue.play session task.run state).result with error | value
  · rw [hresult] at hplay hsent
    have herror : (trace session task state).result = .error error := hresult
    rw [Trace.bind_of_error herror]
    simp only [trace, Trace.mk.injEq]
    refine ⟨hplay.1, hplay.2, ?_⟩
    exact hsent.trans (List.append_nil _)
  · rw [hresult] at hplay hsent
    have hok : (trace session task state).result = .ok value := hresult
    rw [Trace.bind_of_ok hok]
    simp only [trace, Trace.mk.injEq]
    exact ⟨hplay.1, hplay.2, hsent⟩

@[simp] theorem trace_execute (timeout : Nat) (statement : Statement)
    (wrap : SessionError → ε) (state : σ) :
    trace session (execute timeout statement wrap) state =
      session.ask timeout statement wrap state := by
  rcases hsend : session.send state (statement.withTimeout timeout) with ⟨⟨elapsed, answer⟩, after⟩
  unfold trace Session.ask execute Dialogue.execute
  by_cases hlate : timeout < elapsed
  · -- the statement is cancelled before the task fails
    simp [ExceptT.run, ExceptT.mk, bind, pure, Dialogue.bind, Dialogue.play, Dialogue.exchanges,
      Dialogue.Course.after, hsend, hlate, Reply.rows?, Reply.fault, Except.mapError]
  · rcases answer with error | ⟨applied, rows⟩
    · simp [ExceptT.run, ExceptT.mk, bind, pure, Dialogue.bind, Dialogue.play,
        Dialogue.exchanges, Dialogue.Course.after, hsend, hlate, Reply.rows?, Reply.fault,
        Except.mapError, Except.bind]
    · cases applied <;>
        simp [ExceptT.run, ExceptT.mk, bind, pure, Dialogue.bind, Dialogue.play,
          Dialogue.exchanges, Dialogue.Course.after, hsend, hlate, Reply.rows?, Reply.fault,
          Except.mapError, Except.bind, Dialogue.requireApplied, Answer.ofRows]

end Task

end SchemaMigration
