import SchemaMigration.Log
import SchemaMigration.Session

/-!
# Dialogues

What a program says to a session and to its log, and how it goes on after each reply. A dialogue is
finite whatever the session replies, and it knows nothing of the session's state.

* `Dialogue` is the tree of all possible courses.
* `Dialogue.play` is the one course that a session leads to, with its result, the session's state
  at the end, and every event on the way.
* `Dialogue.execute` sends a statement under a deadline.
* `Dialogue.Course.lines` has what is logged in a course, with a line for every statement sent.
-/

namespace SchemaMigration

/-- A course of statements and log lines that ends with a result. -/
inductive Dialogue (α : Type) where
  | done (result : α)
  | log (line : Log.Line) (next : Dialogue α)
  | send (statement : Statement) (next : Reply → Dialogue α)
  | cancel (next : Dialogue α)
  | close (next : Option SessionError → Dialogue α)

namespace Dialogue

/-- A dialogue that goes on with another one. -/
def bind {α β : Type} : Dialogue α → (α → Dialogue β) → Dialogue β
  | done result, k => k result
  | log line next, k => log line (bind next k)
  | send statement next, k => send statement fun reply => bind (next reply) k
  | cancel next, k => cancel (bind next k)
  | close next, k => close fun error => bind (next error) k

instance : Monad Dialogue where
  pure := done
  bind := bind

/-- Logs a line. -/
def say (level : Log.Level) (component : Log.Component) (text : String) : Dialogue Unit :=
  log ⟨level, component, text⟩ (done ())

/-- Logs lines in order. -/
def sayAll : List Log.Line → Dialogue Unit
  | [] => done ()
  | line :: lines => log line (sayAll lines)

/-- Closes the session. -/
def closing : Dialogue (Option SessionError) :=
  close done

/-- The answer of a statement that was applied. -/
def requireApplied (statement : Statement) (answer : Answer) : Except SessionError Answer :=
  if answer.applied then .ok answer else .error (.notApplied statement.text)

/-- Sends a statement that may take some milliseconds. One that takes longer is cancelled, whatever
its answer would have been; one that is not applied is an error. The line that tells of it in most
detail names the session, so it is not logged here but stands among the lines of the course. -/
def execute (timeout : Nat) (statement : Statement) : Dialogue (Except SessionError Answer) :=
  send (statement.withTimeout timeout) fun reply =>
    if timeout < reply.elapsed then
      log ⟨.warn, .executor, "Statement exceeded " ++ Text.decimal timeout ++ "ms, cancelling: "
          ++ statement.text⟩
        (cancel (done (.error (.timeout statement.text timeout))))
    else done (reply.answer.bind (requireApplied statement))

/-! ## Courses -/

/-- Something that happens in the course of a dialogue. -/
inductive Event where
  | logged (line : Log.Line)
  | sent (statement : Statement)
  | cancelled
  | closed
  deriving DecidableEq, Repr

/-- The course of a dialogue: its result, the session's state at the end, and what happened. -/
structure Course (σ α : Type) where
  result : α
  state : σ
  events : List Event

/-- A course with one more event at its start. -/
def Course.after {σ α : Type} (event : Event) (course : Course σ α) : Course σ α :=
  { course with events := event :: course.events }

/-- The course of a dialogue with a session that is in some state. -/
def play {σ α : Type} (session : Session σ) : Dialogue α → σ → Course σ α
  | done result, state => ⟨result, state, []⟩
  | log line next, state => (play session next state).after (.logged line)
  | send statement next, state =>
    let (reply, state) := session.send state statement
    (play session (next reply) state).after (.sent statement)
  | cancel next, state => (play session next (session.cancel state)).after .cancelled
  | close next, state =>
    let (error, state) := session.close state
    (play session (next error) state).after .closed

/-- The line about a statement when it is sent, for a session with that name. -/
def sendingLine (backend : String) (statement : Statement) : Log.Line :=
  ⟨.trace, .executor, backend ++ " <- " ++ statement.text⟩

namespace Course

/-- The lines that the dialogue logs in a course. -/
def logs {σ α : Type} (course : Course σ α) : List Log.Line :=
  course.events.filterMap fun
    | .logged line => some line
    | _ => none

/-- All lines of a course with a session of that name: those that are logged, and one in front of
each statement that is sent. -/
def lines {σ α : Type} (backend : String) (course : Course σ α) : List Log.Line :=
  course.events.filterMap fun
    | .logged line => some line
    | .sent statement => some (sendingLine backend statement)
    | .cancelled | .closed => none

/-- The statements sent in a course. -/
def statements {σ α : Type} (course : Course σ α) : List Statement :=
  course.events.filterMap fun
    | .sent statement => some statement
    | _ => none

end Course

end Dialogue

/-- A dialogue that may fail. -/
abbrev Task (ε α : Type) := ExceptT ε Dialogue α

namespace Task

/-- Logs a line. -/
def say {ε : Type} (level : Log.Level) (component : Log.Component) (text : String) : Task ε Unit :=
  ExceptT.lift (Dialogue.say level component text)

/-- Logs lines in order. -/
def sayAll {ε : Type} (lines : List Log.Line) : Task ε Unit :=
  ExceptT.lift (Dialogue.sayAll lines)

/-- Goes on with a result that is already known. -/
def ofExcept {ε α : Type} (result : Except ε α) : Task ε α :=
  ExceptT.mk (.done result)

/-- Sends a statement under a deadline; a failure becomes an error of the task. -/
def execute {ε : Type} (timeout : Nat) (statement : Statement) (wrap : SessionError → ε) :
    Task ε Answer :=
  ExceptT.mk do
    let result ← Dialogue.execute timeout statement
    return result.mapError wrap

end Task

end SchemaMigration
