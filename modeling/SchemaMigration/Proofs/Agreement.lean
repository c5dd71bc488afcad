import SchemaMigration.Proofs.Step

/-!
# Sessions that agree

Two tasks of the same form, each with a session of its own. As long as the statements that they send
at the same place fare alike, the tasks stay in step: they send as many statements, and one fails if
and only if the other does, with the same error.

* `Agree`: statements at the same place fare alike.
* `Trace.InStep`: two traces with the same result, after as many statements.
* `Session.attempt_inStep`: attempts of steps that are alike stay in step.
-/

namespace SchemaMigration

variable {σ τ ε : Type} {timeout : Nat}

/-- How a statement has fared: nothing if it has succeeded, otherwise what it has failed with. -/
def Exchange.verdict (timeout : Nat) (e : Exchange σ) : Option SessionError :=
  if e.Succeeded timeout then none else some (e.reply.fault timeout e.statement)

/-- The statements that were sent at the same place have fared alike. -/
def Agree (timeout : Nat) (first : List (Exchange σ)) (second : List (Exchange τ)) : Prop :=
  ∀ p ∈ first.zip second, p.1.verdict timeout = p.2.verdict timeout

namespace Agree

variable {first more : List (Exchange σ)} {second others : List (Exchange τ)}

theorem of_prefix (h : Agree timeout more others) (hfirst : first <+: more)
    (hsecond : second <+: others) : Agree timeout first second := by
  obtain ⟨rest, rfl⟩ := hfirst
  obtain ⟨rest', rfl⟩ := hsecond
  intro p hp
  apply h p
  obtain ⟨i, hi, rfl⟩ := List.mem_iff_getElem.mp hp
  rw [List.length_zip, Nat.lt_min] at hi
  refine List.mem_iff_getElem.mpr ⟨i, ?_, ?_⟩
  · simp only [List.length_zip, List.length_append]
    omega
  · simp [List.getElem_append_left, hi.1, hi.2]

/-- What comes after as many statements agrees on its own. -/
theorem behind (h : Agree timeout (first ++ more) (second ++ others))
    (hlength : first.length = second.length) : Agree timeout more others := by
  intro p hp
  apply h p
  rw [List.zip_append hlength]
  exact List.mem_append_right _ hp

end Agree

/-- Two traces that send as many statements and have the same result. -/
structure Trace.InStep {α : Type} (first : Trace σ ε α) (second : Trace τ ε α) : Prop where
  result : first.result = second.result
  length : first.sent.length = second.sent.length

theorem Trace.sent_prefix_bind {α β : Type} (t : Trace σ ε α) (next : α → σ → Trace σ ε β) :
    t.sent <+: (t.bind next).sent := by
  rcases h : t.result with error | value
  · simp [bind_of_error h]
  · simp [bind_of_ok h]

theorem Trace.InStep.map {α β : Type} {first : Trace σ ε α} {second : Trace τ ε α}
    (h : first.InStep second) (f : α → β) : (first.map f).InStep (second.map f) where
  result := congrArg (Except.map f) h.result
  length := h.length

/-- Traces in step stay so if what follows does. -/
theorem Trace.InStep.bind {α β : Type} {first : Trace σ ε α} {second : Trace τ ε α}
    {next : α → σ → Trace σ ε β} {next' : α → τ → Trace τ ε β}
    (hfirst : Agree timeout first.sent second.sent → first.InStep second)
    (hnext : ∀ value, first.result = .ok value → second.result = .ok value →
      Agree timeout (next value first.state).sent (next' value second.state).sent →
      (next value first.state).InStep (next' value second.state))
    (hagree : Agree timeout (first.bind next).sent (second.bind next').sent) :
    (first.bind next).InStep (second.bind next') := by
  have hboth := hfirst (hagree.of_prefix (first.sent_prefix_bind next)
    (second.sent_prefix_bind next'))
  rcases hresult : first.result with error | value
  · have hother : second.result = .error error := hboth.result.symm.trans hresult
    rw [bind_of_error hresult, bind_of_error hother]
    exact ⟨rfl, hboth.length⟩
  · have hother : second.result = .ok value := hboth.result.symm.trans hresult
    rw [bind_of_ok hresult, bind_of_ok hother] at hagree ⊢
    have hrest := hnext value hresult hother (hagree.behind hboth.length)
    exact ⟨hrest.result, by simp [hboth.length, hrest.length]⟩

namespace Session

variable {session : Session σ} {other : Session τ}

/-- Statements of one text that fare alike both succeed, or fail with the same error. -/
theorem ask_of_agree {statement statement' : Statement} (htext : statement.text = statement'.text)
    {wrap : SessionError → ε} {state : σ} {state' : τ}
    (h : Agree timeout (session.ask timeout statement wrap state).sent
      (other.ask timeout statement' wrap state').sent) :
    (∃ rows rows', (session.ask timeout statement wrap state).result = .ok (.ofRows rows) ∧
        (other.ask timeout statement' wrap state').result = .ok (.ofRows rows')) ∨
      ∃ error, (session.ask timeout statement wrap state).result = .error (wrap error) ∧
        (other.ask timeout statement' wrap state').result = .error (wrap error) := by
  obtain ⟨e, hstatement, -, hsent, hanswer⟩ := session.ask_cases timeout statement wrap state
  obtain ⟨f, hstatement', -, hsent', hanswer'⟩ := other.ask_cases timeout statement' wrap state'
  rw [hsent, hsent'] at h
  have hverdict : e.verdict timeout = f.verdict timeout := h (e, f) (by simp)
  have hfault : ∀ reply : Reply, reply.fault timeout statement' = reply.fault timeout statement := by
    intro reply
    simp only [Reply.fault, htext]
  unfold Exchange.verdict at hverdict
  rcases hanswer with ⟨rows, hrows, hok⟩ | ⟨hrows, herror⟩ <;>
    rcases hanswer' with ⟨rows', hrows', hok'⟩ | ⟨hrows', herror'⟩
  · exact .inl ⟨rows, rows', hok, hok'⟩
  -- a success and a failure have not fared alike
  · have he := Exchange.succeeded_iff.mpr ⟨rows, hrows⟩
    have hf := Exchange.not_succeeded_iff.mpr hrows'
    simp [he, hf] at hverdict
  · have he := Exchange.not_succeeded_iff.mpr hrows
    have hf := Exchange.succeeded_iff.mpr ⟨rows', hrows'⟩
    simp [he, hf] at hverdict
  -- two failures have failed with the same
  · have he := Exchange.not_succeeded_iff.mpr hrows
    have hf := Exchange.not_succeeded_iff.mpr hrows'
    rw [if_neg he, if_neg hf, hstatement, hstatement', Option.some.injEq] at hverdict
    have hsame : e.reply.fault timeout statement = f.reply.fault timeout statement' := hverdict
    exact .inr ⟨_, herror, hsame ▸ herror'⟩

end Session

/-- Steps with statements of one text, whose failures mean the same. -/
def Step.Alike (first second : Step) : Prop :=
  first.statement.text = second.statement.text ∧ first.blame = second.blame

theorem Session.attempt_single_inStep {session : Session σ} {other : Session τ}
    {step step' : Step} (hstep : step.Alike step') {state : σ} {state' : τ}
    (h : Agree timeout (session.attempt timeout [step] state).sent
      (other.attempt timeout [step'] state').sent) :
    (session.attempt timeout [step] state).InStep (other.attempt timeout [step'] state') := by
  obtain ⟨htext, hblame⟩ := hstep
  simp only [Session.attempt_single, ← hblame] at h ⊢
  refine ⟨?_, by simp [Trace.map, Session.ask_sent]⟩
  rcases Session.ask_of_agree htext h with ⟨rows, rows', hok, hok'⟩ | ⟨error, herror, herror'⟩
  · simp only [Trace.map, hok, hok']
    rfl
  · simp only [Trace.map, herror, herror']

/-- Attempts of steps that are alike stay in step as long as their statements fare alike. -/
theorem Session.attempt_inStep {session : Session σ} {other : Session τ} {steps steps' : List Step}
    (hsteps : List.Forall₂ Step.Alike steps steps') {state : σ} {state' : τ}
    (h : Agree timeout (session.attempt timeout steps state).sent
      (other.attempt timeout steps' state').sent) :
    (session.attempt timeout steps state).InStep (other.attempt timeout steps' state') := by
  induction hsteps generalizing state state' with
  | nil => exact ⟨rfl, rfl⟩
  | @cons step step' steps steps' hstep hrest ih =>
      rw [← List.singleton_append (x := step), ← List.singleton_append (x := step'),
        Session.attempt_append, Session.attempt_append] at h ⊢
      exact .bind (Session.attempt_single_inStep hstep) (fun _ _ _ => ih) h

end SchemaMigration
