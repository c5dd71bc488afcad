import SchemaMigration.Proofs.Store.Memory

/-!
# Requests and the keyspaces of a store

A request of a ledger reads and changes the keyspace of the ledger only. Its answer and its effect
are a matter of that keyspace, and every other keyspace stays as it is.

* `Store.Same`: two stores with the same keyspaces.
* `Ledger.Request.effect`: what a request that succeeds makes of the ledger's keyspace.
* `Ledger.Request.done_effect`, `Ledger.Request.done_elsewhere`: it does that, and nothing else.
* `Ledger.Request.answer_eq`: the answer depends on nothing but that keyspace.
* `Session.Keeps.preserves_elsewhere`: the same in a session, whether a request succeeds or not.
* `Session.Keeps.tables?_send`: the keyspace of the ledger after a request.
* `Store.refusing_send`: the store in memory replies the same wherever the keyspace is the same.
-/

namespace SchemaMigration

/-- The stores have the same keyspaces, with the same tables and rows. -/
def Store.Same (s t : Store) : Prop :=
  ∀ keyspace, s.keyspace? keyspace = t.keyspace? keyspace

namespace Ledger.Request

/-- The same requests, apart from the id of a new row. -/
inductive Alike : Request → Request → Prop where
  | same (r : Request) : Alike r r
  | insertRow (id id' : Uuid) (script : Script) : Alike (.insertRow id script) (.insertRow id' script)

/-- What a request that succeeds makes of the keyspace of the ledger. -/
def effect (l : Ledger) : Request → Option StoredKeyspace → Option StoredKeyspace
  | listTables, tables | selectRows, tables => tables
  | dropKeyspace, _ => none
  | createKeyspace _, _ => some []
  | createTable, tables => tables.map (· ++ [(l.table.text, ⟨l.checksums, []⟩)])
  | insertRow _ script, tables => tables.map fun tables =>
    match Store.look l.table.text tables with
    | some t =>
      Store.replace l.table.text { t with rows := t.rows ++ [l.storedRow script] } tables
    | none => tables

variable {l : Ledger} {r r' : Request} {s s' t t' : Store} {rows rows' : List Row}

theorem Alike.effect (h : r.Alike r') : r.effect l = r'.effect l := by
  cases h <;> rfl

theorem Alike.text (h : r.Alike r') : (r.statement l).text = (r'.statement l).text := by
  cases h with
  | same => rfl
  | insertRow id id' script => exact l.insertRow_text id id' script

theorem Alike.outcome (h : r.Alike r') (s : Store) : r.outcome l s = r'.outcome l s := by
  cases h <;> rfl

/-- What an outcome with an answer says about the store after it: the keyspace of the ledger has
been changed as the request says, and no other has been changed. -/
theorem store_of_outcome {answer : Answer} (h : r.outcome l s = ⟨.ok answer, s'⟩) :
    l.tables? s' = r.effect l (l.tables? s) ∧
      ∀ other, other ≠ l.keyspace.text → s'.keyspace? other = s.keyspace? other := by
  unfold tables?
  cases r with
  | listTables =>
      simp only [outcome, Store.listTables, Store.answering, Store.Outcome.mk.injEq] at h
      rw [← h.2]
      exact ⟨rfl, fun _ _ => rfl⟩
  | dropKeyspace =>
      simp only [outcome, Store.dropKeyspace] at h
      rcases hold : s.keyspace? l.keyspace.text with _ | tables
      · simp [hold, Store.noKeyspace, Store.failing] at h
      · simp only [hold, Store.becoming, Store.Outcome.mk.injEq] at h
        rw [← h.2]
        exact ⟨Store.keyspace?_erase s _, fun _ hother => Store.keyspace?_erase_of_ne hother s⟩
  | createKeyspace replication =>
      simp only [outcome, Store.createKeyspace] at h
      rcases hold : s.keyspace? l.keyspace.text with _ | tables
      · simp only [hold, Store.becoming, Store.Outcome.mk.injEq] at h
        rw [← h.2]
        exact ⟨Store.keyspace?_create hold, fun _ hother => Store.keyspace?_create_of_ne hother s⟩
      · simp [hold, Store.failing] at h
  | createTable =>
      simp only [outcome, Store.createTable, l.splitName_qualified] at h
      rcases hold : s.keyspace? l.keyspace.text with _ | tables
      · simp [hold, Store.noKeyspace, Store.failing] at h
      · rcases hlook : Store.look l.table.text tables with _ | stored
        · simp only [hold, hlook, Store.becoming, Store.Outcome.mk.injEq] at h
          rw [← h.2]
          exact ⟨Store.keyspace?_setKeyspace hold _,
            fun _ hother => Store.keyspace?_setKeyspace_of_ne hother s _⟩
        · simp [hold, hlook, Store.failing] at h
  | selectRows =>
      simp only [outcome, Store.selectRows, l.splitName_qualified] at h
      split at h
      · simp [Store.noTable, Store.failing] at h
      · split at h
        · simp [Store.noChecksum, Store.failing] at h
        · simp only [Store.answering, Store.Outcome.mk.injEq] at h
          rw [← h.2]
          exact ⟨rfl, fun _ _ => rfl⟩
  | insertRow id script =>
      simp only [outcome, Store.insertRow, l.splitName_qualified] at h
      rcases hold : s.keyspace? l.keyspace.text with _ | tables
      · simp [hold, Store.noTable, Store.failing] at h
      · rcases hlook : Store.look l.table.text tables with _ | stored
        · simp [hold, hlook, Store.noTable, Store.failing] at h
        · simp only [hold, hlook, rowOf_rowValues] at h
          split at h
          · simp [Store.noChecksum, Store.failing] at h
          · simp only [Store.becoming, Store.Outcome.mk.injEq] at h
            rw [← h.2]
            refine ⟨?_, fun _ hother => Store.keyspace?_setKeyspace_of_ne hother s _⟩
            rw [Store.keyspace?_setKeyspace hold, effect, Option.map_some, hlook]

theorem done_effect (h : Done l r s rows s') : l.tables? s' = r.effect l (l.tables? s) := by
  obtain ⟨answer, houtcome, -⟩ := h
  exact (store_of_outcome houtcome).1

theorem done_elsewhere (h : Done l r s rows s') {other : String} (hother : other ≠ l.keyspace.text) :
    s'.keyspace? other = s.keyspace? other := by
  obtain ⟨answer, houtcome, -⟩ := h
  exact (store_of_outcome houtcome).2 other hother

/-- The answer to a request, or the reason for refusing it, is a matter of the ledger's keyspace. -/
theorem answer_eq (h : r.Alike r') (hsame : l.tables? s = l.tables? t) :
    (r.outcome l s).answer = (r'.outcome l t).answer := by
  have hkeyspace : s.keyspace? l.keyspace.text = t.keyspace? l.keyspace.text := hsame
  rw [h.outcome]
  cases r' with
  | listTables =>
      simp only [outcome, Store.listTables, hkeyspace]
      rfl
  | dropKeyspace =>
      simp only [outcome, Store.dropKeyspace, hkeyspace]
      cases t.keyspace? l.keyspace.text <;> rfl
  | createKeyspace replication =>
      simp only [outcome, Store.createKeyspace, hkeyspace]
      cases t.keyspace? l.keyspace.text <;> rfl
  | createTable =>
      simp only [outcome, Store.createTable, l.splitName_qualified, hkeyspace]
      rcases t.keyspace? l.keyspace.text with _ | tables
      · rfl
      · dsimp only
        cases Store.look l.table.text tables <;> rfl
  | selectRows =>
      simp only [outcome, Store.selectRows, l.splitName_qualified, Store.table?, hkeyspace]
      rcases (t.keyspace? l.keyspace.text).bind (Store.look l.table.text) with _ | stored
      · rfl
      · dsimp only
        split <;> rfl
  | insertRow id script =>
      simp only [outcome, Store.insertRow, l.splitName_qualified, hkeyspace]
      rcases t.keyspace? l.keyspace.text with _ | tables
      · rfl
      · dsimp only
        rcases Store.look l.table.text tables with _ | stored
        · rfl
        · dsimp only
          split <;> rfl

end Ledger.Request

namespace Session.Keeps

variable {σ : Type} {fate : FailedWrite} {session : Session σ} {view : σ → Store} {l : Ledger}
  {timeout : Nat}

/-- No request changes another keyspace than that of the ledger, not even one that fails. -/
theorem preserves_elsewhere (h : session.Keeps fate view l timeout) (r : Ledger.Request)
    {other : String} (hother : other ≠ l.keyspace.text) (tables : Option StoredKeyspace) :
    session.Preserves view timeout (fun s => s.keyspace? other = tables) (r.statement l) :=
  h.preserves_of_done fun hdone hsame => (Ledger.Request.done_elsewhere hdone hother).trans hsame

/-- A request that succeeds has its effect on the keyspace of the ledger, another has none. -/
theorem tables?_send (h : session.Keeps .undone view l timeout) (r : Ledger.Request) (state : σ) :
    let sent := session.send state ((r.statement l).withTimeout timeout)
    l.tables? (view sent.2) = match sent.1.rows? timeout with
      | some _ => r.effect l (l.tables? (view state))
      | none => l.tables? (view state) := by
  intro sent
  rcases hrows : sent.1.rows? timeout with _ | rows
  · rcases h.undone r state hrows with hsame | ⟨hfate, -⟩
    · exact congrArg l.tables? hsame
    · cases hfate
  · exact Ledger.Request.done_effect (h.done r state rows hrows)

end Session.Keeps

/-- The reply of the store in memory to a request is a matter of the ledger's keyspace, if what is
refused is a matter of the text. -/
theorem Store.refusing_send (dialect : Dialect) {refuses : Statement → Bool} {l : Ledger}
    (hcolumn : Text.occursIn "checksum".toList l.createTable.text.toList = l.checksums)
    (hrefuses : ∀ first second : Statement, first.text = second.text →
      refuses first = refuses second)
    {r r' : Ledger.Request} (h : r.Alike r') {s t : Store} (hsame : l.tables? s = l.tables? t)
    (timeout : Nat) :
    ((refusing dialect refuses).send s ((r.statement l).withTimeout timeout)).1 =
      ((refusing dialect refuses).send t ((r'.statement l).withTimeout timeout)).1 := by
  have htext : ((r.statement l).withTimeout timeout).text =
      ((r'.statement l).withTimeout timeout).text := h.text
  simp only [refusing, hrefuses _ _ htext, htext]
  split
  · rfl
  · rw [send_statement hcolumn, send_statement hcolumn, Ledger.Request.answer_eq h hsame, h.text]

end SchemaMigration
