import SchemaMigration.Proofs.Store.Tables

/-!
# What the ledger's statements mean

Each statement of a ledger is a request to the store. A request that succeeds changes the store in
one way only; which requests can succeed depends on the catalogue.

* `Ledger.Request.outcome`: what a request makes of a store.
* `Ledger.Request.Done`: a request has succeeded, with rows in any order.
* `Ledger.Request.done_*`: what the success of each request says about the store.
* `Ledger.Request.storedRows_of_done`: which requests leave the rows of the ledger alone.
* `Ledger.Request.possible_*`: when the store does not refuse a request.
-/

namespace SchemaMigration

namespace Ledger

/-- The id of a row is bound to a placeholder, if it is sent at all. -/
theorem insertRow_text (l : Ledger) (id id' : Uuid) (script : Script) :
    (l.insertRow id script.version script).text = (l.insertRow id' script.version script).text := by
  unfold insertRow
  cases l.dialect <;> rfl

/-- What a ledger asks of a store. -/
inductive Request where
  | listTables
  | dropKeyspace
  | createKeyspace (replication : Replication)
  | createTable
  | selectRows
  | insertRow (id : Uuid) (script : Script)

namespace Request

/-- The statement that makes a request. -/
def statement (l : Ledger) : Request → Statement
  | listTables => l.listTables
  | dropKeyspace => l.dropKeyspace
  | createKeyspace replication => l.createKeyspace replication
  | createTable => l.createTable
  | selectRows => l.selectRows
  | insertRow id script => l.insertRow id script.version script

/-- What a request makes of a store: an answer or a refusal, and the store. -/
def outcome (l : Ledger) (s : Store) : Request → Store.Outcome
  | listTables => s.listTables [.text l.keyspace.text]
  | dropKeyspace => s.dropKeyspace l.keyspace.text
  | createKeyspace _ => s.createKeyspace l.keyspace.text
  | createTable => s.createTable l.qualified l.checksums
  | selectRows => s.selectRows l.qualified l.checksums
  | insertRow _ script => s.insertRow l.qualified (l.rowValues script.version script)

/-- A request that has succeeded: the rows of the answer, in some order, and the store after it. -/
def Done (l : Ledger) (r : Request) (s : Store) (rows : List Row) (s' : Store) : Prop :=
  ∃ answer, r.outcome l s = ⟨.ok answer, s'⟩ ∧ rows.Perm answer.rows

/-- A request that the store does not refuse. -/
def Possible (l : Ledger) (r : Request) (s : Store) : Prop :=
  ∃ answer s', r.outcome l s = ⟨.ok answer, s'⟩

variable {l : Ledger} {s s' : Store} {rows : List Row}

/-- The keyspace has a table exactly if tables are listed. -/
theorem done_listTables (h : Done l .listTables s rows s') :
    s' = s ∧ (rows = [] ↔ (l.tables? s).getD [] = []) := by
  obtain ⟨answer, houtcome, hrows⟩ := h
  simp only [outcome, Store.listTables, Store.answering, Store.Outcome.mk.injEq,
    Except.ok.injEq] at houtcome
  obtain ⟨rfl, rfl⟩ := houtcome
  refine ⟨rfl, ?_⟩
  -- there are as many rows as tables
  have hlength : rows.length = ((l.tables? s).getD []).length := by
    simpa [Answer.ofRows, tables?] using hrows.length_eq
  rw [← List.length_eq_zero_iff, ← List.length_eq_zero_iff, hlength]

theorem done_dropKeyspace (h : Done l .dropKeyspace s rows s') :
    (∃ tables, l.tables? s = some tables) ∧ l.tables? s' = none := by
  obtain ⟨answer, houtcome, -⟩ := h
  simp only [outcome, Store.dropKeyspace] at houtcome
  rcases hold : s.keyspace? l.keyspace.text with _ | tables
  · simp [hold, Store.noKeyspace, Store.failing] at houtcome
  · simp only [hold, Store.becoming, Store.Outcome.mk.injEq] at houtcome
    rw [← houtcome.2]
    exact ⟨⟨tables, hold⟩, Store.keyspace?_erase s _⟩

theorem done_createKeyspace {replication : Replication}
    (h : Done l (.createKeyspace replication) s rows s') :
    l.tables? s = none ∧ l.tables? s' = some [] := by
  obtain ⟨answer, houtcome, -⟩ := h
  simp only [outcome, Store.createKeyspace] at houtcome
  rcases hold : s.keyspace? l.keyspace.text with _ | tables
  · simp only [hold, Store.becoming, Store.Outcome.mk.injEq] at houtcome
    rw [← houtcome.2]
    exact ⟨hold, Store.keyspace?_create hold⟩
  · simp [hold, Store.failing] at houtcome

theorem done_createTable (h : Done l .createTable s rows s') :
    (∃ tables, l.tables? s = some tables) ∧ l.stored? s = none ∧
      l.stored? s' = some ⟨l.checksums, []⟩ := by
  obtain ⟨answer, houtcome, -⟩ := h
  simp only [outcome, Store.createTable, l.splitName_qualified] at houtcome
  rcases hold : s.keyspace? l.keyspace.text with _ | tables
  · simp [hold, Store.noKeyspace, Store.failing] at houtcome
  · rcases hlook : Store.look l.table.text tables with _ | t
    · simp only [hold, hlook, Store.becoming, Store.Outcome.mk.injEq] at houtcome
      have hnew : l.tables? s' = some (tables ++ [(l.table.text, ⟨l.checksums, []⟩)]) := by
        rw [← houtcome.2]
        exact Store.keyspace?_setKeyspace hold _
      refine ⟨⟨tables, hold⟩, ?_, ?_⟩
      · rw [stored?_of_tables? hold, hlook]
      · rw [stored?_of_tables? hnew, Store.look_append_self hlook]
    · simp [hold, hlook, Store.failing] at houtcome

/-- Reading needs the ledger, with a column for checksums if it is to hold them. -/
theorem done_selectRows (h : Done l .selectRows s rows s') :
    s' = s ∧ ∃ t, l.stored? s = some t ∧ (l.checksums = true → t.hasChecksum = true) ∧
      rows.Perm (t.rows.map (Store.StoredRow.cells l.checksums)) := by
  obtain ⟨answer, houtcome, hrows⟩ := h
  simp only [outcome, Store.selectRows, l.splitName_qualified] at houtcome
  rcases hstored : s.table? l.keyspace.text l.table.text with _ | t
  · simp [hstored, Store.noTable, Store.failing] at houtcome
  · by_cases hcolumn : (l.checksums && !t.hasChecksum) = true
    · simp [hstored, hcolumn, Store.noChecksum, Store.failing] at houtcome
    · simp only [hstored, hcolumn, Store.answering, Bool.false_eq_true, if_false,
        Store.Outcome.mk.injEq, Except.ok.injEq] at houtcome
      obtain ⟨rfl, rfl⟩ := houtcome
      refine ⟨rfl, t, hstored, ?_, ?_⟩
      · intro hchecksums
        simpa [hchecksums] using hcolumn
      · exact hrows.trans ((List.reverse_perm t.rows).map _)

theorem readable_of_done_selectRows (h : Done l .selectRows s rows s') : l.Readable s := by
  obtain ⟨-, t, hstored, hcolumn, -⟩ := done_selectRows h
  exact ⟨t.hasChecksum, by rw [shape?, hstored]; rfl, hcolumn⟩

/-- The row of a script that is bound to the placeholders. -/
theorem rowOf_rowValues (l : Ledger) (script : Script) :
    Store.rowOf ((l.rowValues script.version script).filter fun v => !Store.isId v) =
      l.storedRow script := by
  unfold rowValues storedRow
  cases l.checksums <;> rfl

/-- Writing needs the same as reading, and adds the row of the script at the end. -/
theorem done_insertRow {id : Uuid} {script : Script} (h : Done l (.insertRow id script) s rows s') :
    ∃ t, l.stored? s = some t ∧ (l.checksums = true → t.hasChecksum = true) ∧
      l.stored? s' = some { t with rows := t.rows ++ [l.storedRow script] } := by
  obtain ⟨answer, houtcome, -⟩ := h
  simp only [outcome, Store.insertRow, l.splitName_qualified] at houtcome
  rcases hold : s.keyspace? l.keyspace.text with _ | tables
  · simp [hold, Store.noTable, Store.failing] at houtcome
  · rcases hlook : Store.look l.table.text tables with _ | t
    · simp [hold, hlook, Store.noTable, Store.failing] at houtcome
    · -- how many values are bound tells whether there is a checksum among them
      have hstored : l.stored? s = some t := by rw [stored?_of_tables? hold, hlook]
      have hlength : ((l.rowValues script.version script).filter fun v => !Store.isId v).length =
          if l.checksums then 3 else 2 := by
        unfold rowValues
        cases l.checksums <;> rfl
      by_cases hcolumn : (l.checksums && !t.hasChecksum) = true
      · rw [Bool.and_eq_true] at hcolumn
        simp [hold, hlook, hlength, hcolumn.1, hcolumn.2, Store.noChecksum,
          Store.failing] at houtcome
      · have hfits : l.checksums = true → t.hasChecksum = true := by
          intro hchecksums
          simpa [hchecksums] using hcolumn
        refine ⟨t, hstored, hfits, ?_⟩
        have hroom : ¬ ((((l.rowValues script.version script).filter fun v =>
            !Store.isId v).length = 3 && !t.hasChecksum) = true) := by
          rw [hlength]
          rcases hchecksums : l.checksums with _ | _
          · simp
          · simp [hfits hchecksums]
        simp only [hold, hlook, hroom, Store.becoming, Bool.false_eq_true, if_false,
          Store.Outcome.mk.injEq, rowOf_rowValues] at houtcome
        have hnew : l.tables? s' = some (Store.replace l.table.text
            { t with rows := t.rows ++ [l.storedRow script] } tables) := by
          rw [← houtcome.2]
          exact Store.keyspace?_setKeyspace hold _
        rw [stored?_of_tables? hnew, Store.look_replace_self hlook]

theorem shape?_of_done_insertRow {id : Uuid} {script : Script}
    (h : Done l (.insertRow id script) s rows s') : l.shape? s' = l.shape? s := by
  obtain ⟨t, hstored, -, hnew⟩ := done_insertRow h
  simp only [shape?, hstored, hnew, Option.map_some]

/-- Only dropping the keyspace and adding a row change the rows of the ledger: it is created without
rows, where it was not. -/
theorem storedRows_of_done {r : Request} (hdrop : r ≠ .dropKeyspace)
    (hinsert : ∀ id script, r ≠ .insertRow id script) (h : Done l r s rows s') :
    l.storedRows s' = l.storedRows s := by
  cases r with
  | listTables => rw [(done_listTables h).1]
  | dropKeyspace => exact absurd rfl hdrop
  | createKeyspace replication =>
      obtain ⟨habsent, hbare⟩ := done_createKeyspace h
      have hnone : l.stored? s' = none := by
        rw [stored?_of_tables? hbare]
        rfl
      rw [storedRows_of_none (stored?_of_tables?_none habsent), storedRows_of_none hnone]
  | createTable =>
      obtain ⟨-, hnone, hnew⟩ := done_createTable h
      rw [storedRows_of_none hnone, storedRows_of_stored? hnew]
  | selectRows => rw [(done_selectRows h).1]
  | insertRow id script => exact absurd rfl (hinsert id script)

/-! ## What the store does not refuse -/

theorem possible_listTables (l : Ledger) (s : Store) : Possible l .listTables s :=
  ⟨_, _, rfl⟩

theorem possible_dropKeyspace {tables : StoredKeyspace} (h : l.tables? s = some tables) :
    Possible l .dropKeyspace s := by
  have hold : s.keyspace? l.keyspace.text = some tables := h
  simp only [Possible, outcome, Store.dropKeyspace, hold, Store.becoming]
  exact ⟨_, _, rfl⟩

theorem possible_createKeyspace (h : l.tables? s = none) (replication : Replication) :
    Possible l (.createKeyspace replication) s := by
  have hold : s.keyspace? l.keyspace.text = none := h
  simp only [Possible, outcome, Store.createKeyspace, hold, Store.becoming]
  exact ⟨_, _, rfl⟩

theorem possible_createTable (h : l.tables? s = some []) : Possible l .createTable s := by
  have hold : s.keyspace? l.keyspace.text = some [] := h
  simp only [Possible, outcome, Store.createTable, l.splitName_qualified, hold, Store.becoming]
  exact ⟨_, _, rfl⟩

theorem possible_selectRows (h : l.Readable s) : Possible l .selectRows s := by
  obtain ⟨column, hshape, hcolumn⟩ := h
  obtain ⟨t, hstored, rfl⟩ := Option.map_eq_some_iff.mp hshape
  have htable : s.table? l.keyspace.text l.table.text = some t := hstored
  have hfits : (l.checksums && !t.hasChecksum) = false := by
    rcases hchecksums : l.checksums with _ | _
    · rfl
    · simp [hcolumn hchecksums]
  simp only [Possible, outcome, Store.selectRows, l.splitName_qualified, htable, hfits,
    Store.answering]
  exact ⟨_, _, rfl⟩

theorem possible_insertRow (h : l.Readable s) (id : Uuid) (script : Script) :
    Possible l (.insertRow id script) s := by
  obtain ⟨column, hshape, hcolumn⟩ := h
  obtain ⟨t, hstored, rfl⟩ := Option.map_eq_some_iff.mp hshape
  rcases htables : s.keyspace? l.keyspace.text with _ | tables
  · rw [stored?_of_tables?_none htables] at hstored
    cases hstored
  · rw [stored?_of_tables? htables] at hstored
    have hroom : ¬ ((((l.rowValues script.version script).filter fun v =>
        !Store.isId v).length = 3 && !t.hasChecksum) = true) := by
      unfold rowValues
      rcases hchecksums : l.checksums with _ | _
      · simp [Store.isId]
      · simp [hcolumn hchecksums]
    simp only [Possible, outcome, Store.insertRow, l.splitName_qualified, htables, hstored, hroom,
      Store.becoming]
    exact ⟨_, _, rfl⟩

end Request

end Ledger

end SchemaMigration
