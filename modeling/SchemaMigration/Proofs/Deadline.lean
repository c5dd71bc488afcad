import SchemaMigration.Migration

/-!
# Tasks under a deadline

Before it ends its session, a job does nothing but log lines and send statements under its deadline,
one after the other. What holds of these holds of all that a job does.

* `Task.Limited`: tasks that are put together in this way.
* `Job.limited_migrate` and `Job.limited_inspect`: the tasks of a job.
-/

namespace SchemaMigration

/-- Tasks that are put together from known results, lines of the log, and statements under a
deadline. -/
inductive Task.Limited {ε : Type} (timeout : Nat) : {α : Type} → Task ε α → Prop where
  | known {α : Type} (result : Except ε α) : Limited timeout (ofExcept result)
  | sayAll (lines : List Log.Line) : Limited timeout (sayAll lines)
  | execute (statement : Statement) (wrap : SessionError → ε) :
      Limited timeout (execute timeout statement wrap)
  | bind {α β : Type} {task : Task ε α} {next : α → Task ε β} (first : Limited timeout task)
      (rest : ∀ value, Limited timeout (next value)) : Limited timeout (task >>= next)

namespace Task.Limited

variable {ε α : Type} {timeout : Nat}

theorem pure (value : α) : Limited timeout (Pure.pure value : Task ε α) :=
  known (.ok value)

theorem throw (error : ε) : Limited timeout (MonadExcept.throw error : Task ε α) :=
  known (.error error)

theorem say (level : Log.Level) (component : Log.Component) (text : String) :
    Limited timeout (Task.say level component text : Task ε Unit) :=
  sayAll [⟨level, component, text⟩]

end Task.Limited

open SchemaMigration.Task (Limited)

/-! ## The ledger -/

namespace Ledger

variable (l : Ledger) (timeout : Nat)

theorem limited_keyspaceExists {ε : Type} (wrap : SessionError → ε) :
    (l.keyspaceExists timeout wrap).Limited timeout :=
  (Limited.execute _ wrap).bind fun _ => .pure _

theorem limited_readRecords : (l.readRecords timeout).Limited timeout :=
  (Limited.execute _ _).bind fun _ => (Limited.known _).bind fun _ => .pure _

theorem limited_create (replication : Replication) :
    (l.create timeout replication).Limited timeout :=
  (Limited.say _ _ _).bind fun _ => (Limited.execute _ _).bind fun _ =>
    (Limited.say _ _ _).bind fun _ => (Limited.execute _ _).bind fun _ => .pure _

theorem limited_drop : (l.drop timeout).Limited timeout :=
  (Limited.say _ _ _).bind fun _ => (Limited.execute _ _).bind fun _ => .pure _

theorem limited_bootstrap (replication : Replication) (refresh : Bool) :
    (l.bootstrap timeout replication refresh).Limited timeout := by
  have hcreate := l.limited_create timeout replication
  refine (l.limited_keyspaceExists timeout _).bind fun present => ?_
  rcases present with _ | _
  · exact hcreate.bind fun _ => .pure KeyspaceAction.created
  · rcases refresh with _ | _
    · exact (Limited.say _ _ _).bind fun _ => .pure KeyspaceAction.unchanged
    · exact (l.limited_drop timeout).bind fun _ =>
        hcreate.bind fun _ => .pure KeyspaceAction.recreated

theorem limited_writeRecord (id : Uuid) (script : Script) :
    (l.writeRecord timeout id script).Limited timeout := by
  unfold writeRecord
  split
  · -- the version is refused before anything is sent
    exact .throw _
  · exact (Limited.execute _ _).bind fun _ => (Limited.say _ _ _).bind fun _ => .pure _

end Ledger

/-! ## Jobs -/

namespace Job

variable (job : Job)

theorem limited_discoverScripts (listing : Listing) :
    (job.discoverScripts listing).Limited job.timeout :=
  (Limited.sayAll _).bind fun _ => .known _

theorem limited_checkModified (scripts : List Script) (records : List AppliedScript) :
    (checkModified scripts records).Limited job.timeout :=
  (Limited.sayAll _).bind fun _ => .pure _

theorem limited_runStatements (script : Script) (statements : List String) :
    (job.runStatements script statements).Limited job.timeout := by
  induction statements with
  | nil => exact .pure ()
  | cons statement statements ih =>
      exact (Limited.say _ _ _).bind fun _ => (Limited.execute _ _).bind fun _ => ih

theorem limited_applyScript (number : Nat) (script : Script) :
    (job.applyScript number script).Limited job.timeout :=
  (Limited.say _ _ _).bind fun _ => (job.limited_runStatements script _).bind fun _ =>
    job.ledger.limited_writeRecord job.timeout _ script

theorem limited_applyScripts (number : Nat) (scripts : List Script) :
    (job.applyScripts number scripts).Limited job.timeout := by
  induction scripts generalizing number with
  | nil => exact .pure []
  | cons script scripts ih =>
      exact (job.limited_applyScript number script).bind fun _ =>
        (ih (number + 1)).bind fun _ => .pure _

theorem limited_migrateScripts (scripts : List Script) :
    (job.migrateScripts scripts).Limited job.timeout := by
  refine (job.ledger.limited_bootstrap job.timeout _ _).bind fun action =>
    (job.ledger.limited_readRecords job.timeout).bind fun records =>
      (job.limited_checkModified scripts records).bind fun modified => ?_
  rcases modified with _ | ⟨name, names⟩
  · exact (Limited.sayAll _).bind fun _ =>
      (job.limited_applyScripts 0 _).bind fun _ => .pure _
  · exact .throw _

/-- Applying what is pending. -/
theorem limited_migrate (listing : Listing) : (job.migrate listing).Limited job.timeout := by
  refine (job.limited_discoverScripts listing).bind fun scripts => ?_
  split
  · exact (Limited.say _ _ _).bind fun _ => .pure Report.nothingFound
  · exact job.limited_migrateScripts scripts

/-- Comparing the ledger with the scripts. -/
theorem limited_inspect (listing : Listing) : (job.inspect listing).Limited job.timeout := by
  refine (job.limited_discoverScripts listing).bind fun scripts =>
    (job.ledger.limited_keyspaceExists job.timeout _).bind fun present => ?_
  rcases present with _ | _
  · exact (job.limited_checkModified scripts []).bind fun _ => .pure _
  · exact (job.ledger.limited_readRecords job.timeout).bind fun records =>
      (job.limited_checkModified scripts records).bind fun _ => .pure _

end Job

end SchemaMigration
