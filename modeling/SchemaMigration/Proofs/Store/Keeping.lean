import SchemaMigration.Proofs.Step
import SchemaMigration.Proofs.Store.Request

/-!
# Sessions that keep a store

A session may fail or be late with any statement, at any time. What is asked of it is only that the
statements of a ledger that succeed have done what they say, and that others have done nothing.

* `Session.Keeps`: the session keeps a store.
* `Session.Grants`: the session fails nothing on its own account.
* `Session.Preserves`: a statement that does not destroy a property of the store.
* `Session.Keeps.ask_cases`, `Session.Keeps.ask_of_grants`: how a request may turn out.
* `Session.Keeps.attempt_preserves`: steps that preserve a property preserve it throughout.
* `Session.Keeps.error_of_attempt`: how such steps may fail.
-/

namespace SchemaMigration

/-- What is known of a row that could not be written. -/
inductive FailedWrite where
  /-- It has not been written. -/
  | undone
  /-- It may have been written all the same. -/
  | unknown
  deriving DecidableEq

namespace Session

variable {σ ε : Type}

/-- A session that keeps a store, which `view` shows, as far as the statements of a ledger are
concerned. -/
structure Keeps (fate : FailedWrite) (session : Session σ) (view : σ → Store) (l : Ledger)
    (timeout : Nat) : Prop where
  /-- A request that succeeds has been done. -/
  done : ∀ (r : Ledger.Request) (state : σ) (rows : List Row),
    (session.send state ((r.statement l).withTimeout timeout)).1.rows? timeout = some rows →
      r.Done l (view state) rows
        (view (session.send state ((r.statement l).withTimeout timeout)).2)
  /-- A request that does not succeed has no effect, except perhaps that a row is written. -/
  undone : ∀ (r : Ledger.Request) (state : σ),
    (session.send state ((r.statement l).withTimeout timeout)).1.rows? timeout = none →
      view (session.send state ((r.statement l).withTimeout timeout)).2 = view state ∨
        fate = .unknown ∧ ∃ id script rows, r = .insertRow id script ∧
          r.Done l (view state) rows
            (view (session.send state ((r.statement l).withTimeout timeout)).2)
  /-- To cancel a statement changes nothing further. -/
  cancelled : ∀ state, view (session.cancel state) = view state
  closed : ∀ state, view (session.close state).2 = view state

/-- A session that fails no request which the store does not refuse. -/
def Grants (session : Session σ) (view : σ → Store) (l : Ledger) (timeout : Nat) : Prop :=
  ∀ (r : Ledger.Request) (state : σ), r.Possible l (view state) →
    ∃ rows, (session.send state ((r.statement l).withTimeout timeout)).1.rows? timeout = some rows

/-- A statement that does not destroy a property of the store, whether it succeeds or not. -/
def Preserves (session : Session σ) (view : σ → Store) (timeout : Nat) (P : Store → Prop)
    (statement : Statement) : Prop :=
  ∀ state, P (view state) → P (view (session.send state (statement.withTimeout timeout)).2)

/-- The statements of a script do not destroy a property of the store. -/
def Spares (session : Session σ) (view : σ → Store) (timeout : Nat) (P : Store → Prop)
    (script : Script) : Prop :=
  ∀ text ∈ script.statements, session.Preserves view timeout P (.execute text [])

/-- The statements of a script leave the ledger as it is, whatever else they do. -/
def LeavesLedger (session : Session σ) (view : σ → Store) (l : Ledger) (timeout : Nat)
    (script : Script) : Prop :=
  ∀ text ∈ script.statements, ∀ state,
    l.stored? (view (session.send state ((Statement.execute text []).withTimeout timeout)).2) =
      l.stored? (view state)

theorem LeavesLedger.spares {session : Session σ} {view : σ → Store} {l : Ledger} {timeout : Nat}
    {script : Script} (h : session.LeavesLedger view l timeout script)
    (P : Option StoredTable → Prop) :
    session.Spares view timeout (fun s => P (l.stored? s)) script := by
  intro text htext state hstate
  simpa only [h text htext state] using hstate

/-- In particular they leave its columns as they are. -/
theorem LeavesLedger.spares_shape {session : Session σ} {view : σ → Store} {l : Ledger}
    {timeout : Nat} {script : Script} (h : session.LeavesLedger view l timeout script)
    (P : Option Bool → Prop) :
    session.Spares view timeout (fun s => P (l.shape? s)) script :=
  h.spares fun table => P (table.map StoredTable.hasChecksum)

namespace Keeps

variable {fate : FailedWrite} {session : Session σ} {view : σ → Store} {l : Ledger} {timeout : Nat}

/-- A statement is asked once, and at the end the store is as it was right after the reply. -/
theorem view_ask (h : session.Keeps fate view l timeout) (statement : Statement)
    (wrap : SessionError → ε) (state : σ) :
    view (session.ask timeout statement wrap state).state =
      view (session.send state (statement.withTimeout timeout)).2 := by
  unfold ask
  rcases hsend : session.send state (statement.withTimeout timeout) with ⟨reply, after⟩
  rcases hrows : reply.rows? timeout with _ | rows
  · by_cases hlate : timeout < reply.elapsed
    · simp [hlate, hrows, h.cancelled]
    · simp [hlate, hrows]
  · simp [hrows]

/-- How a request may turn out: it is done, or it fails and has at most written a row. -/
theorem ask_cases (h : session.Keeps fate view l timeout) (r : Ledger.Request)
    (wrap : SessionError → ε) (state : σ) :
    let t := session.ask timeout (r.statement l) wrap state
    ∃ e, t.sent = [e] ∧ e.statement = (r.statement l).withTimeout timeout ∧
      view e.after = view t.state ∧
      ((∃ rows, t.result = .ok (.ofRows rows) ∧ e.Succeeded timeout ∧
          r.Done l (view state) rows (view t.state)) ∨
        (∃ error, t.result = .error (wrap error) ∧ ¬ e.Succeeded timeout ∧
          (view t.state = view state ∨ fate = .unknown ∧ ∃ id script rows,
            r = .insertRow id script ∧ r.Done l (view state) rows (view t.state)))) := by
  intro t
  have hview : view t.state = view (session.send state ((r.statement l).withTimeout timeout)).2 :=
    h.view_ask (r.statement l) wrap state
  refine ⟨_, session.ask_sent timeout (r.statement l) wrap state, rfl, hview.symm, ?_⟩
  rw [Exchange.succeeded_iff, hview]
  rcases hrows : (session.send state ((r.statement l).withTimeout timeout)).1.rows? timeout with
    _ | rows
  · exact .inr ⟨_, session.ask_result_of_none timeout hrows wrap, by simp, h.undone r state hrows⟩
  · exact .inl ⟨rows, session.ask_result_of_some timeout hrows wrap, ⟨rows, rfl⟩,
      h.done r state rows hrows⟩

/-- A request other than for a new row is done, or it fails and changes nothing. -/
theorem ask_cases_of_ne (h : session.Keeps fate view l timeout) {r : Ledger.Request}
    (hr : ∀ id script, r ≠ .insertRow id script) (wrap : SessionError → ε) (state : σ) :
    let t := session.ask timeout (r.statement l) wrap state
    ∃ e, t.sent = [e] ∧ e.statement = (r.statement l).withTimeout timeout ∧
      view e.after = view t.state ∧
      ((∃ rows, t.result = .ok (.ofRows rows) ∧ e.Succeeded timeout ∧
          r.Done l (view state) rows (view t.state)) ∨
        (∃ error, t.result = .error (wrap error) ∧ ¬ e.Succeeded timeout ∧
          view t.state = view state)) := by
  intro t
  obtain ⟨e, hsent, hstatement, hview, hcase⟩ := h.ask_cases r wrap state
  refine ⟨e, hsent, hstatement, hview, ?_⟩
  rcases hcase with hdone | ⟨error, herror, hnot, hsame | ⟨-, id, script, -, hinsert, -⟩⟩
  · exact .inl hdone
  · exact .inr ⟨error, herror, hnot, hsame⟩
  · exact absurd hinsert (hr id script)

/-- Asking for the tables or reading the ledger leaves the store as it is. -/
theorem ask_query (h : session.Keeps fate view l timeout) {r : Ledger.Request}
    (hr : r = .listTables ∨ r = .selectRows) (wrap : SessionError → ε) (state : σ) :
    view (session.ask timeout (r.statement l) wrap state).state = view state ∧
      ∀ e ∈ (session.ask timeout (r.statement l) wrap state).sent, view e.after = view state := by
  have hinsert : ∀ id script, r ≠ .insertRow id script := by
    rcases hr with rfl | rfl <;> simp
  obtain ⟨e, hsent, -, hview, hcase⟩ := h.ask_cases_of_ne hinsert wrap state
  have hsame : view (session.ask timeout (r.statement l) wrap state).state = view state := by
    rcases hcase with ⟨rows, -, -, hdone⟩ | ⟨error, -, -, hsame⟩
    · rcases hr with rfl | rfl
      · exact (Ledger.Request.done_listTables hdone).1
      · exact (Ledger.Request.done_selectRows hdone).1
    · exact hsame
  refine ⟨hsame, ?_⟩
  rw [hsent]
  simpa using hview.trans hsame

/-- In a session that fails nothing on its own account, a request is done that the store does not
refuse. -/
theorem ask_of_grants (h : session.Keeps fate view l timeout)
    (hgrants : session.Grants view l timeout) {r : Ledger.Request} {state : σ}
    (hpossible : r.Possible l (view state)) (wrap : SessionError → ε) :
    let t := session.ask timeout (r.statement l) wrap state
    ∃ rows, t.result = .ok (.ofRows rows) ∧ r.Done l (view state) rows (view t.state) := by
  intro t
  obtain ⟨rows, hrows⟩ := hgrants r state hpossible
  refine ⟨rows, session.ask_result_of_some timeout hrows wrap, ?_⟩
  rw [h.view_ask (r.statement l) wrap state]
  exact h.done r state rows hrows

/-- In such a session, a ledger that is there is found. -/
theorem listTables_of_present (h : session.Keeps fate view l timeout)
    (hgrants : session.Grants view l timeout) {state : σ} (hpresent : l.Present (view state))
    (wrap : SessionError → ε) :
    ∃ tables, (session.ask timeout l.listTables wrap state).result = .ok (.ofRows tables) ∧
      tables ≠ [] ∧ view (session.ask timeout l.listTables wrap state).state = view state := by
  obtain ⟨tables, hok, hdone⟩ := h.ask_of_grants hgrants
    (Ledger.Request.possible_listTables l (view state)) wrap
  obtain ⟨hsame, hlisted⟩ := Ledger.Request.done_listTables hdone
  exact ⟨tables, hok, fun hnil => hpresent.tables_ne_nil (hlisted.mp hnil), hsame⟩

/-- In such a session, a ledger with all columns that are read is read. -/
theorem selectRows_of_readable (h : session.Keeps fate view l timeout)
    (hgrants : session.Grants view l timeout) {state : σ} (hreadable : l.Readable (view state))
    (wrap : SessionError → ε) :
    ∃ rows, (session.ask timeout l.selectRows wrap state).result = .ok (.ofRows rows) ∧
      rows.Perm ((l.storedRows (view state)).map (Store.StoredRow.cells l.checksums)) ∧
      view (session.ask timeout l.selectRows wrap state).state = view state := by
  obtain ⟨rows, hok, hdone⟩ := h.ask_of_grants hgrants
    (Ledger.Request.possible_selectRows hreadable) wrap
  obtain ⟨hsame, t, hstored, -, hperm⟩ := Ledger.Request.done_selectRows hdone
  rw [← Ledger.storedRows_of_stored? hstored] at hperm
  exact ⟨rows, hok, hperm, hsame⟩

/-- What a request does not destroy when it is done is not destroyed in the session. -/
theorem preserves_of_done (h : session.Keeps fate view l timeout) {r : Ledger.Request}
    {P : Store → Prop} (hdone : ∀ {s rows s'}, r.Done l s rows s' → P s → P s') :
    session.Preserves view timeout P (r.statement l) := by
  intro state hstate
  rcases hrows : (session.send state ((r.statement l).withTimeout timeout)).1.rows? timeout with
    _ | rows
  · -- a row that could not be written may be there all the same
    rcases h.undone r state hrows with hsame | ⟨-, id, script, rows, -, hwritten⟩
    · exact hsame ▸ hstate
    · exact hdone hwritten hstate
  · exact hdone (h.done r state rows hrows) hstate

/-- Requests other than for dropping the keyspace and for a new row leave the rows alone. -/
theorem preserves_storedRows (h : session.Keeps fate view l timeout) {r : Ledger.Request}
    (hdrop : r ≠ .dropKeyspace) (hinsert : ∀ id script, r ≠ .insertRow id script)
    (rows : List StoredRow) :
    session.Preserves view timeout (fun s => l.storedRows s = rows) (r.statement l) :=
  h.preserves_of_done fun hdone hrows =>
    (Ledger.Request.storedRows_of_done hdrop hinsert hdone).trans hrows

/-- Writing a row, or trying to, leaves the ledger in place with the columns that it has. -/
theorem preserves_insertRow (h : session.Keeps fate view l timeout) (id : Uuid) (script : Script)
    (P : Option Bool → Prop) :
    session.Preserves view timeout (fun s => P (l.shape? s))
      (l.insertRow id script.version script) := by
  refine h.preserves_of_done (r := .insertRow id script) fun hdone hshape => ?_
  rw [Ledger.Request.shape?_of_done_insertRow hdone]
  exact hshape

/-- In such a session, a ledger with all columns that are written takes a row. -/
theorem insertRow_of_readable (h : session.Keeps fate view l timeout)
    (hgrants : session.Grants view l timeout) {state : σ} (hreadable : l.Readable (view state))
    (id : Uuid) (script : Script) (wrap : SessionError → ε) :
    ∃ rows, (session.ask timeout (l.insertRow id script.version script) wrap state).result =
      .ok (.ofRows rows) := by
  obtain ⟨rows, hok, -⟩ := h.ask_of_grants hgrants
    (Ledger.Request.possible_insertRow hreadable id script) wrap
  exact ⟨rows, hok⟩

theorem ask_preserves (h : session.Keeps fate view l timeout) {P : Store → Prop}
    {statement : Statement} (hstatement : session.Preserves view timeout P statement)
    (wrap : SessionError → ε) {state : σ} (hstate : P (view state)) :
    P (view (session.ask timeout statement wrap state).state) ∧
      ∀ e ∈ (session.ask timeout statement wrap state).sent, P (view e.after) := by
  have hafter := hstatement state hstate
  rw [h.view_ask statement wrap state, session.ask_sent]
  exact ⟨hafter, by simpa using hafter⟩

/-- Steps that preserve a property of the store preserve it at every moment. -/
theorem attempt_preserves (h : session.Keeps fate view l timeout) {P : Store → Prop}
    {steps : List Step} (hsteps : ∀ step ∈ steps, session.Preserves view timeout P step.statement)
    {state : σ} (hstate : P (view state)) :
    P (view (session.attempt timeout steps state).state) ∧
      ∀ e ∈ (session.attempt timeout steps state).sent, P (view e.after) := by
  induction steps generalizing state with
  | nil => exact ⟨hstate, by simp [attempt]⟩
  | cons step steps ih =>
      obtain ⟨hstep, hrest⟩ := List.forall_mem_cons.mp hsteps
      obtain ⟨hafter, hmoment⟩ := h.ask_preserves hstep step.blame hstate
      rcases hresult : (session.ask timeout step.statement step.blame state).result with
        error | answer
      · -- nothing is sent after the failure
        rw [attempt, Trace.bind_of_error hresult]
        exact ⟨hafter, hmoment⟩
      · rw [attempt, Trace.bind_of_ok hresult]
        obtain ⟨hend, hothers⟩ := ih hrest hafter
        exact ⟨hend, List.forall_mem_append.mpr ⟨hmoment, hothers⟩⟩

/-- An attempt of such steps fails as one of the steps may fail where the property holds. -/
theorem error_of_attempt (h : session.Keeps fate view l timeout) {P : Store → Prop}
    {Q : MigrationError → Prop} {steps : List Step}
    (hsteps : ∀ step ∈ steps, session.Preserves view timeout P step.statement)
    (hfails : ∀ step ∈ steps, ∀ state, P (view state) → ∀ error,
      (session.ask timeout step.statement step.blame state).result = .error error → Q error)
    {state : σ} (hstate : P (view state)) {error : MigrationError}
    (herror : (session.attempt timeout steps state).result = .error error) : Q error := by
  induction steps generalizing state with
  | nil => cases herror
  | cons step steps ih =>
      obtain ⟨hstep, hrest⟩ := List.forall_mem_cons.mp hsteps
      obtain ⟨hfirst, hothers⟩ := List.forall_mem_cons.mp hfails
      obtain ⟨hafter, -⟩ := h.ask_preserves hstep step.blame hstate
      rcases hresult : (session.ask timeout step.statement step.blame state).result with
        first | answer
      · rw [attempt, Trace.bind_of_error hresult] at herror
        rw [Except.error.inj herror] at hresult
        exact hfirst state hstate error hresult
      · rw [attempt, Trace.bind_of_ok hresult] at herror
        exact ih hrest hothers hafter herror

end Keeps

end Session

end SchemaMigration
