import SchemaMigration.Dialogue
import SchemaMigration.Sql.Engine

/-!
# Reading a database

A database that is open to be read stays as it is, whatever is said to its session.

* `Engine.database_perform`: a write is refused, and a query has no effect.
* `Engine.database_play`: no dialogue changes the database.
-/

namespace SchemaMigration.Sql

/-- A statement that writes nothing is looked up as a query. -/
theorem Context.plan_of_not_isWrite {context : Context} {command : Command} {plan : Plan}
    (hread : command.isWrite = false) (hplan : context.plan command = .ok plan) :
    ∃ q, plan = .query q := by
  cases command with
  | query q =>
      unfold Context.plan at hplan
      rcases hq : context.planQuery q with fault | found
      · simp [hq, bind, Except.bind] at hplan
      · simp only [hq, bind, Except.bind, pure, Except.pure, Except.ok.injEq] at hplan
        exact ⟨found, hplan.symm⟩
  | _ => simp [Command.isWrite] at hread

theorem Plan.database_of_query {db changed : Database} {q : QueryPlan} {rows : List Record}
    (h : (Plan.query q).run db = .ok (changed, rows)) : changed = db := by
  unfold Plan.run at h
  rcases hq : q.run with fault | found
  · simp [hq, bind, Except.bind] at h
  · simp only [hq, bind, Except.bind, pure, Except.pure, Except.ok.injEq, Prod.mk.injEq] at h
    exact h.1.symm

namespace Engine

variable {engine : Engine}

/-- A write is refused, and a query has no effect. -/
theorem database_perform (hreadOnly : engine.readOnly = true) {db : Database}
    {values : List (Datum × SqlType)} {statement : Prepared} {plan : Plan}
    (hplan : engine.prepare db values statement = .ok plan) :
    (engine.perform db statement plan).database = db := by
  unfold perform
  split
  · rfl
  · split
    · next changed rows hrun =>
        rcases hwrite : statement.command.isWrite with _ | _
        · obtain ⟨q, rfl⟩ := Context.plan_of_not_isWrite hwrite hplan
          simp only [checkAccess, hwrite, Bool.and_false, Bool.false_eq_true, if_false] at hrun
          exact Plan.database_of_query hrun
        · simp [checkAccess, hreadOnly, hwrite, bind, Except.bind] at hrun
    · rfl

theorem database_runEarlier (hreadOnly : engine.readOnly = true) (db : Database)
    (statement : Prepared) : (engine.runEarlier db statement).database = db := by
  unfold runEarlier
  split
  · rfl
  · next plan hplan =>
      split
      · exact database_perform hreadOnly hplan
      · rfl

theorem database_runLast (hreadOnly : engine.readOnly = true) (db : Database)
    (values : List Value) (statement : Prepared) :
    (engine.runLast db values statement).database = db := by
  unfold runLast
  split
  · rfl
  · next plan hplan =>
      split
      · exact database_perform hreadOnly hplan
      · rfl

theorem database_runAll (hreadOnly : engine.readOnly = true) (values : List Value) (db : Database)
    (statements : List Prepared) : (engine.runAll values db statements).database = db := by
  induction statements generalizing db with
  | nil => rfl
  | cons statement rest ih =>
      have hfirst := database_runEarlier hreadOnly db statement
      cases rest with
      | nil => exact database_runLast hreadOnly db values statement
      | cons next rest =>
          simp only [runAll]
          split
          · exact hfirst
          · exact (ih _).trans hfirst

theorem database_run (hreadOnly : engine.readOnly = true) (db : Database) (text : String)
    (values : List Value) : (engine.run db text values).database = db := by
  unfold run
  split
  · rfl
  · split
    · exact database_runAll hreadOnly values db _
    · rfl

theorem database_send (hreadOnly : engine.readOnly = true) (state : State)
    (statement : Statement) : (engine.send state statement).2.database = state.database := by
  unfold send
  split
  · rfl
  · exact database_run hreadOnly state.database statement.text statement.values

/-- No dialogue changes a database that is open to be read. -/
theorem database_play (hreadOnly : engine.readOnly = true) {α : Type} (d : Dialogue α)
    (state : State) : (d.play engine.session state).state.database = state.database := by
  induction d generalizing state with
  | done result => rfl
  | log line next ih => exact ih state
  | send statement next ih => exact (ih _ _).trans (database_send hreadOnly state statement)
  | cancel next ih => exact ih state
  | close next ih => exact ih none { state with closed := true }

end Engine

end SchemaMigration.Sql
