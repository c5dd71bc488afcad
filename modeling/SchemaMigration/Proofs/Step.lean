import SchemaMigration.Migration.Error
import SchemaMigration.Proofs.Trace

/-!
# Steps

A run is made of steps: a statement and the error that its failure means. Steps are attempted one
after the other until one fails; nothing is tried twice and nothing follows a failure.

* `Session.attempt_append`: attempting two lists of steps in a row.
* `Session.attempt_cases`: all steps succeed, or there is a first one that does not, and it decides
  the error.
* `Trace.StopsAt`: a trace that ends with the failure of a step.
* `FailFast`: statements that follow a plan up to the first failure.
-/

namespace SchemaMigration

/-- A statement that a run means to send, with the error of the run should it fail. -/
structure Step where
  statement : Statement
  blame : SessionError → MigrationError

namespace Session

variable {σ ε : Type} (session : Session σ) (timeout : Nat)

theorem ask_sent (statement : Statement) (wrap : SessionError → ε) (state : σ) :
    (session.ask timeout statement wrap state).sent =
      [⟨statement.withTimeout timeout, (session.send state (statement.withTimeout timeout)).1,
        (session.send state (statement.withTimeout timeout)).2⟩] := by
  unfold ask
  rcases session.send state (statement.withTimeout timeout) with ⟨reply, after⟩
  cases h : reply.rows? timeout <;> simp [h]

theorem ask_result_of_some {statement : Statement} {state : σ} {rows : List Row}
    (h : (session.send state (statement.withTimeout timeout)).1.rows? timeout = some rows)
    (wrap : SessionError → ε) :
    (session.ask timeout statement wrap state).result = .ok (.ofRows rows) := by
  unfold ask
  rcases hsend : session.send state (statement.withTimeout timeout) with ⟨reply, after⟩
  rw [hsend] at h
  simp [h]

theorem ask_state_of_some {statement : Statement} {state : σ} {rows : List Row}
    (h : (session.send state (statement.withTimeout timeout)).1.rows? timeout = some rows)
    (wrap : SessionError → ε) :
    (session.ask timeout statement wrap state).state =
      (session.send state (statement.withTimeout timeout)).2 := by
  unfold ask
  rcases hsend : session.send state (statement.withTimeout timeout) with ⟨reply, after⟩
  rw [hsend] at h
  simp [h]

theorem ask_result_of_none {statement : Statement} {state : σ}
    (h : (session.send state (statement.withTimeout timeout)).1.rows? timeout = none)
    (wrap : SessionError → ε) :
    (session.ask timeout statement wrap state).result = .error
      (wrap ((session.send state (statement.withTimeout timeout)).1.fault timeout statement)) := by
  unfold ask
  rcases hsend : session.send state (statement.withTimeout timeout) with ⟨reply, after⟩
  rw [hsend] at h
  simp [h]

/-- Whatever a session replies, a statement is sent once. The reply is a success, and its rows are
the value, or the error is what the reply is at fault with. -/
theorem ask_cases (statement : Statement) (wrap : SessionError → ε) (state : σ) :
    ∃ e : Exchange σ, e.statement = statement.withTimeout timeout ∧
      e.after = (session.send state (statement.withTimeout timeout)).2 ∧
      (session.ask timeout statement wrap state).sent = [e] ∧
      ((∃ rows, e.reply.rows? timeout = some rows ∧
          (session.ask timeout statement wrap state).result = .ok (.ofRows rows)) ∨
        (e.reply.rows? timeout = none ∧ (session.ask timeout statement wrap state).result =
          .error (wrap (e.reply.fault timeout statement)))) := by
  refine ⟨_, rfl, rfl, session.ask_sent timeout statement wrap state, ?_⟩
  rcases h : (session.send state (statement.withTimeout timeout)).1.rows? timeout with _ | rows
  · exact .inr ⟨rfl, session.ask_result_of_none timeout h wrap⟩
  · exact .inl ⟨rows, rfl, session.ask_result_of_some timeout h wrap⟩

/-- The trace of steps that are attempted in order, up to the first that fails. -/
def attempt : List Step → σ → Trace σ MigrationError Unit
  | [], state => ⟨.ok (), state, []⟩
  | step :: steps, state =>
    (session.ask timeout step.statement step.blame state).bind fun _ state =>
      attempt steps state

theorem attempt_single (step : Step) (state : σ) :
    session.attempt timeout [step] state =
      (session.ask timeout step.statement step.blame state).map fun _ => () := by
  simp [attempt]

theorem attempt_append (first second : List Step) (state : σ) :
    session.attempt timeout (first ++ second) state =
      (session.attempt timeout first state).bind fun _ state =>
        session.attempt timeout second state := by
  induction first generalizing state with
  | nil => rfl
  | cons step steps ih =>
      rw [List.cons_append, attempt, attempt, Trace.bind_assoc]
      congr 1
      funext _ state
      exact ih state

/-- How steps are attempted: all of them succeed, or there is a first one that does not. The error
of the run is then that of this step, and its statement is the last one sent. -/
theorem attempt_cases (steps : List Step) (state : σ) :
    ((session.attempt timeout steps state).result = .ok () ∧
      (session.attempt timeout steps state).sent.map (·.statement) =
        steps.map (·.statement.withTimeout timeout) ∧
      ∀ e ∈ (session.attempt timeout steps state).sent, e.Succeeded timeout) ∨
    ∃ before step after succeeded e, steps = before ++ step :: after ∧
      (session.attempt timeout steps state).sent = succeeded ++ [e] ∧
      succeeded.map (·.statement) = before.map (·.statement.withTimeout timeout) ∧
      (∀ e ∈ succeeded, e.Succeeded timeout) ∧
      e.statement = step.statement.withTimeout timeout ∧ ¬ e.Succeeded timeout ∧
      (session.attempt timeout steps state).result =
        .error (step.blame (e.reply.fault timeout step.statement)) := by
  induction steps generalizing state with
  | nil => exact .inl ⟨rfl, rfl, by simp [attempt]⟩
  | cons step steps ih =>
      obtain ⟨e, hstatement, -, hsent, hanswer⟩ :=
        session.ask_cases timeout step.statement step.blame state
      rcases hanswer with ⟨rows, hrows, hresult⟩ | ⟨hrows, hresult⟩
      · -- the first step succeeds, so the others decide
        have he : e.Succeeded timeout := Exchange.succeeded_iff.mpr ⟨rows, hrows⟩
        rw [attempt, Trace.bind_of_ok hresult]
        simp only [hsent, List.singleton_append, List.map_cons, List.forall_mem_cons]
        rcases ih (session.ask timeout step.statement step.blame state).state with
          ⟨hok, hall, hsucc⟩ | ⟨before, failed, after, succeeded, f, hsteps, hlog, hrest⟩
        · exact .inl ⟨hok, by rw [hstatement, hall], he, hsucc⟩
        · obtain ⟨hbefore, hsucc, hf, hnot, herror⟩ := hrest
          refine .inr ⟨step :: before, failed, after, e :: succeeded, f, by rw [hsteps]; rfl,
            by rw [hlog]; rfl, by rw [List.map_cons, List.map_cons, hstatement, hbefore],
            ?_, hf, hnot, herror⟩
          exact List.forall_mem_cons.mpr ⟨he, hsucc⟩
      · -- the first step fails, and nothing follows
        have he : ¬ e.Succeeded timeout := Exchange.not_succeeded_iff.mpr hrows
        rw [attempt, Trace.bind_of_error hresult]
        exact .inr ⟨[], step, steps, [], e, rfl, hsent, rfl, by simp, hstatement, he, rfl⟩

end Session

/-- A trace that ends with the failure of one of some steps: its statement is the last one sent, and
it decides the error. -/
def Trace.StopsAt {σ α : Type} (timeout : Nat) (steps : List Step) (t : Trace σ MigrationError α) :
    Prop :=
  ∃ step ∈ steps, ∃ front e, t.sent = front ++ [e] ∧
    e.statement = step.statement.withTimeout timeout ∧ ¬ e.Succeeded timeout ∧
    t.result = .error (step.blame (e.reply.fault timeout step.statement))

theorem Trace.StopsAt.append {σ α : Type} {timeout : Nat} {steps : List Step}
    {t : Trace σ MigrationError α} (h : t.StopsAt timeout steps) (before : List (Exchange σ)) :
    Trace.StopsAt timeout steps { t with sent := before ++ t.sent } := by
  obtain ⟨step, hstep, front, e, hsent, hrest⟩ := h
  exact ⟨step, hstep, before ++ front, e, by simp [hsent], hrest⟩

theorem Trace.StopsAt.map {σ α β : Type} {timeout : Nat} {steps : List Step}
    {t : Trace σ MigrationError α} (h : t.StopsAt timeout steps) (f : α → β) :
    (t.map f).StopsAt timeout steps := by
  obtain ⟨step, hstep, front, e, hsent, hstatement, hnot, hresult⟩ := h
  exact ⟨step, hstep, front, e, hsent, hstatement, hnot, congrArg (Except.map f) hresult⟩

theorem Session.attempt_stopsAt {σ : Type} (session : Session σ) (timeout : Nat)
    {steps : List Step} {state : σ} {error : MigrationError}
    (h : (session.attempt timeout steps state).result = .error error) :
    (session.attempt timeout steps state).StopsAt timeout steps := by
  rcases session.attempt_cases timeout steps state with
    ⟨hok, -⟩ | ⟨before, step, after, succeeded, e, hsteps, hsent, -, -, he, hnot, herror⟩
  · rw [hok] at h
    cases h
  · exact ⟨step, by simp [hsteps], succeeded, e, hsent, he, hnot, herror⟩

/-! ## Plans -/

/-- An element of two lists in a row is in the second one or in the first one. -/
theorem append_eq_append_cons {α : Type} {first second front back : List α} {e : α}
    (h : first ++ second = front ++ e :: back) :
    (∃ middle, front = first ++ middle ∧ second = middle ++ e :: back) ∨
      ∃ middle, first = front ++ e :: middle := by
  rcases List.append_eq_append_iff.mp h with ⟨middle, hfront, hsecond⟩ | ⟨middle, hfirst, hcons⟩
  · exact .inl ⟨middle, hfront, hsecond⟩
  · cases middle with
    | nil => exact .inl ⟨[], by simpa using hfirst.symm, hcons.symm⟩
    | cons f middle =>
        simp only [List.cons_append, List.cons.injEq] at hcons
        exact .inr ⟨middle, by rw [hfirst, hcons.1]⟩

/-- Statements that are sent as planned up to the first failure. -/
structure FailFast {σ : Type} (timeout : Nat) (plan : List Statement) (sent : List (Exchange σ)) :
    Prop where
  /-- What is sent is the beginning of the plan. -/
  follows : sent.map (·.statement) <+: plan
  /-- Nothing is sent after a failure. -/
  stops : ∀ before e after, sent = before ++ e :: after → ¬ e.Succeeded timeout → after = []
  /-- Without a failure the whole plan is sent. -/
  completes : (∀ e ∈ sent, e.Succeeded timeout) → sent.map (·.statement) = plan

namespace FailFast

variable {σ : Type} {timeout : Nat} {plan rest : List Statement} {sent more : List (Exchange σ)}

theorem nil : FailFast timeout [] ([] : List (Exchange σ)) where
  follows := List.prefix_rfl
  stops := by simp
  completes := by simp

/-- Statements that succeed up to the last one, which may fail. -/
theorem of_succeeded {succeeded : List (Exchange σ)} {e : Exchange σ}
    (hsucc : ∀ e ∈ succeeded, e.Succeeded timeout) :
    FailFast timeout ((succeeded ++ [e]).map (·.statement)) (succeeded ++ [e]) where
  follows := List.prefix_rfl
  stops := by
    intro before f after heq hf
    rcases append_eq_append_cons heq with ⟨middle, -, hlast⟩ | ⟨middle, hfront⟩
    · -- only the last statement may fail
      cases middle with
      | nil => exact (List.cons.inj hlast).2.symm
      | cons other middle => simp at hlast
    · exact absurd (hsucc f (by simp [hfront])) hf
  completes := fun _ => rfl

/-- All that is sent before the last statement succeeds. -/
theorem succeeded_of_append {before : List (Exchange σ)} {e : Exchange σ}
    (h : FailFast timeout plan (before ++ [e])) : ∀ f ∈ before, f.Succeeded timeout := by
  intro f hf
  by_contra hnot
  obtain ⟨front, back, rfl⟩ := List.append_of_mem hf
  exact absurd (h.stops front f (back ++ [e]) (by simp) hnot) (by simp)

/-- After a failure it does not matter what else was planned. -/
theorem stopped (h : FailFast timeout plan sent) (hfail : ∃ e ∈ sent, ¬ e.Succeeded timeout) :
    FailFast timeout (plan ++ rest) sent where
  follows := h.follows.trans (List.prefix_append ..)
  stops := h.stops
  completes := by
    intro hall
    obtain ⟨e, he, hnot⟩ := hfail
    exact absurd (hall e he) hnot

end FailFast

/-! ## Traces that follow a plan -/

/-- A trace that sends what was planned and goes on exactly if every statement succeeds. -/
structure Trace.Attempts {σ ε α : Type} (timeout : Nat) (plan : List Statement)
    (t : Trace σ ε α) : Prop where
  failFast : FailFast timeout plan t.sent
  succeeded : ∀ value, t.result = .ok value → ∀ e ∈ t.sent, e.Succeeded timeout
  failed : ∀ error, t.result = .error error → ∃ e ∈ t.sent, ¬ e.Succeeded timeout

namespace Trace.Attempts

variable {σ ε α β : Type} {timeout : Nat} {plan : List Statement}

theorem map {t : Trace σ ε α} (h : t.Attempts timeout plan) (f : α → β) :
    (t.map f).Attempts timeout plan where
  failFast := h.failFast
  succeeded := by
    intro value hvalue
    rcases hresult : t.result with error | first
    · simp [Trace.map, hresult, Except.map] at hvalue
    · exact h.succeeded first hresult
  failed := by
    intro error herror
    rcases hresult : t.result with first | value
    · exact h.failed first hresult
    · simp [Trace.map, hresult, Except.map] at herror

end Trace.Attempts

namespace Session

variable {σ ε : Type} (session : Session σ) (timeout : Nat)

/-- Attempted steps follow the plan of their statements. -/
theorem attempt_attempts (steps : List Step) (state : σ) :
    (session.attempt timeout steps state).Attempts timeout
      (steps.map (·.statement.withTimeout timeout)) := by
  rcases session.attempt_cases timeout steps state with
    ⟨hok, hall, hsucc⟩ |
    ⟨before, step, after, succeeded, e, hsteps, hsent, hbefore, hsucc, he, hnot, herror⟩
  · refine ⟨⟨hall ▸ List.prefix_rfl, ?_, fun _ => hall⟩, fun _ _ => hsucc, ?_⟩
    · intro before e after heq hnot
      exact absurd (hsucc e (by simp [heq])) hnot
    · intro error hresult
      rw [hok] at hresult
      cases hresult
  · have hplan : steps.map (·.statement.withTimeout timeout) =
        (succeeded ++ [e]).map (·.statement) ++ after.map (·.statement.withTimeout timeout) := by
      simp [hsteps, hbefore, he]
    have hfail : ∃ f ∈ succeeded ++ [e], ¬ f.Succeeded timeout := ⟨e, by simp, hnot⟩
    rw [← hsent] at hfail hplan
    have hfast : FailFast timeout ((session.attempt timeout steps state).sent.map (·.statement))
        (session.attempt timeout steps state).sent := by
      rw [hsent]
      exact FailFast.of_succeeded hsucc
    rw [hplan]
    refine ⟨hfast.stopped hfail, ?_, fun _ _ => hfail⟩
    intro value hresult
    rw [herror] at hresult
    cases hresult

end Session

/-! ## Traces that take no failure for a success -/

/-- A trace that has a value only if every statement sent has succeeded. -/
def Trace.Strict {σ ε α : Type} (timeout : Nat) (t : Trace σ ε α) : Prop :=
  ∀ value, t.result = .ok value → ∀ e ∈ t.sent, e.Succeeded timeout

namespace Trace.Strict

variable {σ ε α β : Type} {timeout : Nat}

theorem of_sent_nil {t : Trace σ ε α} (h : t.sent = []) : t.Strict timeout := by
  intro value _ e he
  rw [h] at he
  cases he

theorem map {t : Trace σ ε α} (h : t.Strict timeout) (f : α → β) : (t.map f).Strict timeout := by
  intro value hvalue
  rcases hresult : t.result with error | first
  · simp [Trace.map, hresult, Except.map] at hvalue
  · exact h first hresult

theorem bind {t : Trace σ ε α} (h : t.Strict timeout) {next : α → σ → Trace σ ε β}
    (hnext : ∀ value state, (next value state).Strict timeout) : (t.bind next).Strict timeout := by
  intro value hvalue e he
  rcases hresult : t.result with error | first
  · rw [Trace.bind_of_error hresult] at hvalue
    cases hvalue
  · rw [Trace.bind_of_ok hresult] at hvalue he
    rcases List.mem_append.mp he with he | he
    · exact h first hresult e he
    · exact hnext first t.state value hvalue e he

theorem ask (session : Session σ) (timeout : Nat) (statement : Statement)
    (wrap : SessionError → ε) (state : σ) :
    (session.ask timeout statement wrap state).Strict timeout := by
  intro value hvalue e he
  obtain ⟨f, -, -, hsent, ⟨rows, hrows, -⟩ | ⟨-, herror⟩⟩ :=
    session.ask_cases timeout statement wrap state
  · rw [hsent, List.mem_singleton] at he
    rw [he]
    exact Exchange.succeeded_iff.mpr ⟨rows, hrows⟩
  · cases hvalue.symm.trans herror

theorem attempt (session : Session σ) (timeout : Nat) (steps : List Step) (state : σ) :
    (session.attempt timeout steps state).Strict timeout :=
  (session.attempt_attempts timeout steps state).succeeded

end Trace.Strict

end SchemaMigration
