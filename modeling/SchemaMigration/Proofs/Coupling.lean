import SchemaMigration.Proofs.Step

/-!
# Coupled sessions

Two sessions side by side, with a relation between their states. Statements that are told the same,
and that lead from related states to related states, keep two tasks together to the end.

* `Reply.told`: what a program is told by a reply.
* `Trace.Coupled`: two traces with the same result and related states.
* `Session.Couples`: two statements that keep the sessions together.
* `Session.attempt_coupled`: attempts of such steps are coupled.
-/

namespace SchemaMigration

variable {σ τ ε α β : Type} {timeout : Nat} {related : σ → τ → Prop}

/-- What a program is told by a reply to a statement: its rows, or what has gone wrong. -/
def Reply.told (timeout : Nat) (statement : Statement) (reply : Reply) :
    Except SessionError (List Row) :=
  match reply.rows? timeout with
  | some rows => .ok rows
  | none => .error (reply.fault timeout statement)

/-- Of the statement only its text is told. -/
theorem Reply.told_of_text {statement statement' : Statement}
    (h : statement.text = statement'.text) (timeout : Nat) (reply : Reply) :
    reply.told timeout statement = reply.told timeout statement' := by
  unfold told fault
  rw [h]

/-- Replies that tell the same bring the same rows, or none. -/
theorem Reply.rows?_of_told {statement statement' : Statement} {reply reply' : Reply}
    (h : reply.told timeout statement = reply'.told timeout statement') :
    reply.rows? timeout = reply'.rows? timeout := by
  unfold told at h
  rcases hrows : reply.rows? timeout with _ | rows <;>
    rcases hrows' : reply'.rows? timeout with _ | rows' <;>
    simp_all

/-- Two traces with the same result, and with related states at the end. -/
structure Trace.Coupled (related : σ → τ → Prop) (first : Trace σ ε α) (second : Trace τ ε α) :
    Prop where
  result : first.result = second.result
  state : related first.state second.state

namespace Trace.Coupled

variable {first : Trace σ ε α} {second : Trace τ ε α}

theorem map (h : first.Coupled related second) (f : α → β) :
    (first.map f).Coupled related (second.map f) where
  result := congrArg (Except.map f) h.result
  state := h.state

/-- Coupled traces stay so if what follows does. -/
theorem bind (h : first.Coupled related second) {next : α → σ → Trace σ ε β}
    {next' : α → τ → Trace τ ε β}
    (hnext : ∀ value, first.result = .ok value →
      (next value first.state).Coupled related (next' value second.state)) :
    (first.bind next).Coupled related (second.bind next') := by
  rcases hresult : first.result with error | value
  · rw [bind_of_error hresult, bind_of_error (h.result.symm.trans hresult)]
    exact ⟨rfl, h.state⟩
  · rw [bind_of_ok hresult, bind_of_ok (h.result.symm.trans hresult)]
    exact ⟨(hnext value hresult).result, (hnext value hresult).state⟩

end Trace.Coupled

namespace Session

variable {first : Session σ} {second : Session τ}

theorem ask_result (session : Session σ) (timeout : Nat) (statement : Statement)
    (wrap : SessionError → ε) (state : σ) :
    (session.ask timeout statement wrap state).result =
      (((session.send state (statement.withTimeout timeout)).1.told timeout statement).map
        Answer.ofRows).mapError wrap := by
  unfold Reply.told
  rcases hrows : (session.send state (statement.withTimeout timeout)).1.rows? timeout with _ | rows
  · exact session.ask_result_of_none timeout hrows wrap
  · exact session.ask_result_of_some timeout hrows wrap

/-- Where an error is put does not matter to the session. -/
theorem ask_state (session : Session σ) (timeout : Nat) (statement : Statement)
    (wrap : SessionError → ε) (state : σ) :
    (session.ask timeout statement wrap state).state =
      (session.ask timeout statement id state).state := by
  unfold ask
  rcases session.send state (statement.withTimeout timeout) with ⟨reply, after⟩
  cases h : reply.rows? timeout <;> simp [h]

/-- From related states the statements are told the same, and they lead to related states. -/
def Couples (first : Session σ) (second : Session τ) (timeout : Nat) (related : σ → τ → Prop)
    (statement statement' : Statement) : Prop :=
  ∀ state state', related state state' →
    (first.send state (statement.withTimeout timeout)).1.told timeout statement =
        (second.send state' (statement'.withTimeout timeout)).1.told timeout statement' ∧
      related (first.ask timeout statement id state).state
        (second.ask timeout statement' id state').state

theorem ask_coupled {statement statement' : Statement}
    (h : first.Couples second timeout related statement statement') (wrap : SessionError → ε)
    {state : σ} {state' : τ} (hstate : related state state') :
    (first.ask timeout statement wrap state).Coupled related
      (second.ask timeout statement' wrap state') where
  result := by
    rw [ask_result, ask_result, (h state state' hstate).1]
  state := by
    rw [ask_state, ask_state second]
    exact (h state state' hstate).2

/-- Steps with such statements, whose failures mean the same. -/
def CouplesStep (first : Session σ) (second : Session τ) (timeout : Nat) (related : σ → τ → Prop)
    (step step' : Step) : Prop :=
  first.Couples second timeout related step.statement step'.statement ∧ step.blame = step'.blame

/-- Attempts of such steps are coupled. -/
theorem attempt_coupled {steps steps' : List Step}
    (hsteps : List.Forall₂ (first.CouplesStep second timeout related) steps steps')
    {state : σ} {state' : τ} (hstate : related state state') :
    (first.attempt timeout steps state).Coupled related
      (second.attempt timeout steps' state') := by
  -- on the steps; the states are general, since each step leads on to others
  induction hsteps generalizing state state' with
  | nil => exact ⟨rfl, hstate⟩
  | @cons step step' steps steps' hstep hrest ih =>
      obtain ⟨hcouples, hblame⟩ := hstep
      have hask := ask_coupled hcouples step.blame hstate
      rw [attempt, attempt, ← hblame]
      exact hask.bind fun _ _ => ih hask.state

end Session

end SchemaMigration
