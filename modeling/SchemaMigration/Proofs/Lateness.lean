import SchemaMigration.Proofs.Closing

/-!
# Late statements

A statement is late if it takes longer than the deadline. It is cancelled, and ends whatever it
belongs to, without a look at its answer. Like the end of a session, this is read off the dialogues.

* `Dialogue.CancelsLate`: a late statement is cancelled and ends the dialogue, and nothing else is
  cancelled.
* `Dialogue.CancelsLate.course_cases`: a course has no late statement, or ends with one.
* `Session.SameInTime`, `Dialogue.CancelsLate.play_bind`: the answer of a late statement makes no
  difference.
* `Task.Limited.cancelsLate`: this holds of all tasks under the deadline.
-/

namespace SchemaMigration

variable {σ ε α β : Type} {timeout : Nat}

/-! ## Dialogues -/

namespace Dialogue

/-- The line about a late statement. -/
def lateLine (timeout : Nat) (text : String) : Log.Line :=
  ⟨.warn, .executor, "Statement exceeded " ++ Text.decimal timeout ++ "ms, cancelling: " ++ text⟩

/-- The end of a dialogue with a late statement: a line is logged, the statement is cancelled, and
the result is an error. -/
def givingUp (timeout : Nat) (text : String) (error : ε) : Dialogue (Except ε α) :=
  log (lateLine timeout text) (cancel (done (.error error)))

/-- Whether a late statement ends the dialogue in this way, whatever its answer. Nothing else is
cancelled, and the session is not closed. -/
def CancelsLate (timeout : Nat) : Dialogue (Except ε α) → Prop
  | done _ => True
  | log _ next => CancelsLate timeout next
  | send statement next =>
    (∃ error, ∀ reply : Reply, timeout < reply.elapsed →
        next reply = givingUp timeout statement.text error) ∧
      ∀ reply : Reply, reply.elapsed ≤ timeout → CancelsLate timeout (next reply)
  | cancel _ | close _ => False

/-- An error is passed on, so what comes behind a late statement is the same for both tasks. -/
theorem CancelsLate.bind {d : Dialogue (Except ε α)} (h : d.CancelsLate timeout)
    {next : α → Task ε β} (hnext : ∀ value, (next value).run.CancelsLate timeout) :
    (d >>= ExceptT.bindCont next).CancelsLate timeout := by
  change (d.bind (ExceptT.bindCont next)).CancelsLate timeout
  induction d with
  | done result =>
      rcases result with error | value
      · trivial
      · exact hnext value
  | log line rest ih => exact ih h
  | send statement rest ih =>
      obtain ⟨⟨error, hlate⟩, hintime⟩ := h
      exact ⟨⟨error, fun reply hreply =>
        congrArg (Dialogue.bind · (ExceptT.bindCont next)) (hlate reply hreply)⟩,
        fun reply hreply => ih reply (hintime reply hreply)⟩
  | cancel rest ih => exact h.elim
  | close rest ih => exact h.elim

/-- In a course there is no late statement, and nothing is cancelled; or the last statement is late,
and then it is cancelled at once. -/
theorem CancelsLate.course_cases {d : Dialogue (Except ε α)} (h : d.CancelsLate timeout)
    (session : Session σ) (state : σ) :
    let events := (play session d state).events
    let sent := exchanges session d state
    (.cancelled ∉ events ∧ ∀ e ∈ sent, e.reply.elapsed ≤ timeout) ∨
      ∃ before e front, sent = before ++ [e] ∧ timeout < e.reply.elapsed ∧
        (∀ f ∈ before, f.reply.elapsed ≤ timeout) ∧ .cancelled ∉ front ∧
        events = front ++
          [.sent e.statement, .logged (lateLine timeout e.statement.text), .cancelled] := by
  induction d generalizing state with
  | done result => exact .inl ⟨by simp [play], by simp [exchanges]⟩
  | log line next ih =>
      rcases ih h state with ⟨hevents, hsent⟩ | ⟨before, e, front, hsent, hlate, hbefore, hfront,
        hevents⟩
      · exact .inl ⟨by simpa [play, Course.after] using hevents, hsent⟩
      · exact .inr ⟨before, e, .logged line :: front, hsent, hlate, hbefore,
          by simpa using hfront, congrArg (List.cons _) hevents⟩
  | send statement next ih =>
      rcases hsend : session.send state statement with ⟨reply, after⟩
      simp only [play, exchanges, hsend, Course.after]
      obtain ⟨⟨error, hgiveUp⟩, hgoOn⟩ := h
      by_cases hlate : timeout < reply.elapsed
      · -- the dialogue is given up
        refine .inr ⟨[], ⟨statement, reply, after⟩, [], ?_, hlate, by simp, by simp, ?_⟩
        · rw [hgiveUp reply hlate]
          rfl
        · rw [hgiveUp reply hlate]
          rfl
      · have hintime : reply.elapsed ≤ timeout := by omega
        rcases ih reply (hgoOn reply hintime) after with ⟨hevents, hsent⟩ | ⟨before, e, front,
          hsent, hlater, hbefore, hfront, hevents⟩
        · exact .inl ⟨by simpa using hevents, List.forall_mem_cons.mpr ⟨hintime, hsent⟩⟩
        · exact .inr ⟨⟨statement, reply, after⟩ :: before, e, .sent statement :: front,
            congrArg (List.cons _) hsent, hlater, List.forall_mem_cons.mpr ⟨hintime, hbefore⟩,
            by simpa using hfront, congrArg (List.cons _) hevents⟩
  | cancel next ih => exact h.elim
  | close next ih => exact h.elim

end Dialogue

/-- Sessions that differ at most in the replies to late statements, which are late in both. -/
structure Session.SameInTime (timeout : Nat) (session other : Session σ) : Prop where
  reply : ∀ state statement,
    (other.send state statement).1 = (session.send state statement).1 ∨
      timeout < (session.send state statement).1.elapsed ∧
        timeout < (other.send state statement).1.elapsed
  after : ∀ state statement, (other.send state statement).2 = (session.send state statement).2
  cancel : other.cancel = session.cancel
  close : other.close = session.close

/-- The answers of late statements make no difference. -/
theorem Dialogue.CancelsLate.play_bind {d : Dialogue (Except ε α)} (h : d.CancelsLate timeout)
    {session other : Session σ} (hsame : session.SameInTime timeout other)
    {k : Except ε α → Dialogue β}
    (hk : ∀ result state, play other (k result) state = play session (k result) state)
    (state : σ) : play other (d >>= k) state = play session (d >>= k) state := by
  change play other (d.bind k) state = play session (d.bind k) state
  induction d generalizing state with
  | done result => exact hk result state
  | log line next ih => exact congrArg (Course.after _) (ih h state)
  | send statement next ih =>
      obtain ⟨⟨error, hgiveUp⟩, hgoOn⟩ := h
      simp only [Dialogue.bind, play]
      rw [hsame.after state statement]
      congr 1
      by_cases hlate : timeout < (session.send state statement).1.elapsed
      · have hlate' : timeout < (other.send state statement).1.elapsed := by
          rcases hsame.reply state statement with hreply | hboth
          · rwa [hreply]
          · exact hboth.2
        rw [hgiveUp _ hlate, hgiveUp _ hlate']
        simp only [givingUp, Dialogue.bind, play, hsame.cancel, hk]
      · have hreply := (hsame.reply state statement).resolve_right fun hboth => hlate hboth.1
        rw [hreply]
        exact ih _ (hgoOn _ (by omega)) _
  | cancel next ih => exact h.elim
  | close next ih => exact h.elim

/-! ## Tasks -/

namespace Task

/-- Whether a late statement ends a task. -/
def CancelsLate (timeout : Nat) (task : Task ε α) : Prop :=
  Dialogue.CancelsLate timeout task.run

theorem cancelsLate_sayAll (lines : List Log.Line) :
    CancelsLate timeout (sayAll lines : Task ε Unit) := by
  induction lines with
  | nil => trivial
  | cons line lines ih => exact ih

theorem cancelsLate_execute (statement : Statement) (wrap : SessionError → ε) :
    CancelsLate timeout (execute timeout statement wrap) := by
  refine ⟨⟨wrap (.timeout statement.text timeout), fun reply hreply => ?_⟩,
    fun reply hreply => ?_⟩
  · simp only [Dialogue.bind, hreply, if_true]
    rfl
  · have hnot : ¬ timeout < reply.elapsed := by omega
    simp only [hnot, if_false]
    trivial

theorem Limited.cancelsLate {task : Task ε α} (h : task.Limited timeout) :
    task.CancelsLate timeout := by
  induction h with
  | known result => trivial
  | sayAll lines => exact cancelsLate_sayAll lines
  | execute statement wrap => exact cancelsLate_execute statement wrap
  | bind first rest ih ihrest => exact ih.bind ihrest

end Task

end SchemaMigration
