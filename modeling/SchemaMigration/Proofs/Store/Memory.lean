import SchemaMigration.Proofs.Store.Keeping
import SchemaMigration.Proofs.Text.Pieces

/-!
# The store in memory

The store in memory understands the statements of a ledger from their text alone, and it does with
them what they are to do. Whether a table is to hold checksums it tells from the text that creates
the table, so names with that word in them would mislead it.

* `Ledger.perform_statement`: the text of each statement is understood.
* `Store.refusing`: the store in memory, with some statements refused.
* `Store.refusing_keeps`, `Store.session_grants`: both keep a store, and the plain one refuses
  nothing on its own account.
-/

namespace SchemaMigration

namespace Ledger

variable (l : Ledger)

theorem qualified_not_mem_blank : ' ' ∉ l.qualified.toList := by
  have hkeyspace : ' ' ∉ l.keyspace.text.toList :=
    l.keyspace.not_mem_of_not_isLowerTail (by decide)
  have htable : ' ' ∉ l.table.text.toList := l.table.not_mem_of_not_isLowerTail (by decide)
  simp [qualified, hkeyspace, htable]

theorem keyspace_not_mem_blank : ' ' ∉ l.keyspace.text.toList :=
  l.keyspace.not_mem_of_not_isLowerTail (by decide)

variable (s : Store) (timeout : Nat)

theorem perform_listTables :
    s.perform (l.listTables.withTimeout timeout) = s.listTables [.text l.keyspace.text] := by
  unfold listTables
  cases l.dialect <;>
    simp [Store.perform, Statement.query, Statement.withTimeout, Store.startsWith, Text.strip?]

theorem perform_dropKeyspace :
    s.perform (l.dropKeyspace.withTimeout timeout) = s.dropKeyspace l.keyspace.text := by
  unfold dropKeyspace
  cases l.dialect <;>
    simp [Store.perform, Statement.execute, Statement.withTimeout, Store.startsWith, Text.strip?,
      Store.word, Text.pieces, Text.pieces_append, Text.pieces_of_not_mem,
      l.keyspace_not_mem_blank]

theorem perform_createKeyspace (replication : Replication) :
    s.perform ((l.createKeyspace replication).withTimeout timeout) =
      s.createKeyspace l.keyspace.text := by
  unfold createKeyspace
  cases l.dialect <;>
    simp [Store.perform, Statement.execute, Statement.withTimeout, Store.startsWith, Text.strip?,
      Store.word, Text.pieces, Text.pieces_append, Text.pieces_of_not_mem,
      l.keyspace_not_mem_blank]

theorem perform_createTable :
    s.perform (l.createTable.withTimeout timeout) = s.createTable l.qualified
      (Text.occursIn "checksum".toList l.createTable.text.toList) := by
  simp [createTable, Store.perform, Statement.execute, Statement.withTimeout, Store.startsWith,
    Text.strip?, Store.word, Text.pieces, Text.pieces_append, l.qualified_not_mem_blank]

theorem perform_selectRows :
    s.perform (l.selectRows.withTimeout timeout) = s.selectRows l.qualified l.checksums := by
  unfold selectRows columns
  cases l.checksums <;>
    simp [Store.perform, Statement.query, Statement.withTimeout, Store.startsWith, Text.strip?,
      Store.lastWord, Text.pieces, Text.pieces_of_not_mem, l.qualified_not_mem_blank]

theorem perform_insertRow (id : Uuid) (script : Script) :
    s.perform ((l.insertRow id script.version script).withTimeout timeout) =
      s.insertRow l.qualified (l.rowValues script.version script) := by
  have hid : ∀ values, s.insertRow l.qualified (.uuid id :: values) =
      s.insertRow l.qualified values := fun values => rfl
  unfold insertRow insertText
  cases l.dialect <;>
    simp [Store.perform, Statement.execute, Statement.withTimeout, Store.startsWith, Text.strip?,
      Store.word, Text.pieces, Text.pieces_append, l.qualified_not_mem_blank, rowValues, hid]

/-- The store in memory understands every statement of a ledger. -/
theorem perform_statement (hcolumn : Text.occursIn "checksum".toList l.createTable.text.toList =
    l.checksums) (r : Request) :
    s.perform ((r.statement l).withTimeout timeout) = r.outcome l s := by
  cases r with
  | listTables => exact l.perform_listTables s timeout
  | dropKeyspace => exact l.perform_dropKeyspace s timeout
  | createKeyspace replication => exact l.perform_createKeyspace s timeout replication
  | createTable =>
      have htable := l.perform_createTable s timeout
      rw [hcolumn] at htable
      exact htable
  | selectRows => exact l.perform_selectRows s timeout
  | insertRow id script => exact l.perform_insertRow s timeout id script

/-- A text tells to sleep only if its second character is an L. -/
theorem delay_of_second {text : String} (h : text.toList[1]? ≠ some 'L') :
    Store.delay text = 0 := by
  unfold Store.delay
  split
  · next digits hstrip =>
      rw [Text.strip?_eq_some_iff] at hstrip
      rw [hstrip] at h
      simp at h
  · rfl

/-- No statement of a ledger makes the store in memory wait. -/
theorem delay_statement (r : Request) : Store.delay (r.statement l).text = 0 := by
  apply delay_of_second
  cases r with
  | listTables =>
      simp only [Request.statement, listTables]
      cases l.dialect <;> simp [Statement.query]
  | dropKeyspace =>
      simp only [Request.statement, dropKeyspace]
      cases l.dialect <;> simp [Statement.execute]
  | createKeyspace replication =>
      simp only [Request.statement, createKeyspace]
      cases l.dialect <;> simp [Statement.execute]
  | createTable => simp [Request.statement, createTable, Statement.execute]
  | selectRows => simp [Request.statement, selectRows, Statement.query]
  | insertRow id script =>
      unfold Request.statement insertRow insertText
      cases l.dialect <;> simp [Statement.execute]

/-- The store answers a request, or refuses it and stays as it is. -/
theorem outcome_cases (r : Request) :
    (∃ rows s', r.outcome l s = ⟨.ok (.ofRows rows), s'⟩) ∨
      ∃ reason, r.outcome l s = ⟨.error reason, s⟩ := by
  cases r <;> simp only [Request.outcome, Store.listTables, Store.dropKeyspace,
    Store.createKeyspace, Store.createTable, Store.selectRows, Store.insertRow, Store.answering,
    Store.becoming, Store.noKeyspace, Store.noTable, Store.noChecksum, Store.failing]
  all_goals (repeat' split) <;> simp

end Ledger

namespace Store

/-- The session over a store that refuses some statements. -/
def refusing (dialect : Dialect) (refuses : Statement → Bool) : Session Store where
  backend := "store"
  dialect := dialect
  send s statement :=
    if refuses statement then (⟨0, .error (.execution statement.text "refused")⟩, s)
    else s.send statement
  cancel := id
  close s := (none, s)

/-- The reply of the store in memory to a request. -/
theorem send_statement {l : Ledger} (hcolumn :
      Text.occursIn "checksum".toList l.createTable.text.toList = l.checksums)
    (r : Ledger.Request) (s : Store) (timeout : Nat) :
    s.send ((r.statement l).withTimeout timeout) =
      (⟨0, (r.outcome l s).answer.mapError (.execution (r.statement l).text)⟩,
        (r.outcome l s).store) := by
  have hperform := l.perform_statement s timeout hcolumn r
  have hdelay := l.delay_statement r
  unfold send
  rw [hperform]
  simp only [Statement.withTimeout] at hdelay ⊢
  rw [hdelay]

/-- The store in memory keeps a store, whatever is refused. -/
theorem refusing_keeps (fate : FailedWrite) (dialect : Dialect) (refuses : Statement → Bool)
    {l : Ledger} (hcolumn : Text.occursIn "checksum".toList l.createTable.text.toList =
      l.checksums) (timeout : Nat) :
    (refusing dialect refuses).Keeps fate id l timeout where
  done := by
    intro r state rows hrows
    by_cases hrefused : refuses ((r.statement l).withTimeout timeout) = true
    · simp [refusing, hrefused, Reply.rows?] at hrows
    · -- then the store has answered, and its answer is the outcome of the request
      simp only [refusing, hrefused, if_false, send_statement hcolumn, Bool.false_eq_true,
        id_eq] at hrows ⊢
      rcases l.outcome_cases state r with ⟨answer, s', houtcome⟩ | ⟨reason, houtcome⟩
      · simp [houtcome, Reply.rows?, Except.mapError, Answer.ofRows] at hrows
        exact ⟨.ofRows answer, by simp [houtcome], by simp [Answer.ofRows, hrows]⟩
      · simp [houtcome, Reply.rows?, Except.mapError] at hrows
  undone := by
    intro r state hrows
    left
    by_cases hrefused : refuses ((r.statement l).withTimeout timeout) = true
    · simp [refusing, hrefused]
    · simp only [refusing, hrefused, if_false, send_statement hcolumn, Bool.false_eq_true,
        id_eq] at hrows ⊢
      rcases l.outcome_cases state r with ⟨answer, s', houtcome⟩ | ⟨reason, houtcome⟩
      · simp [houtcome, Reply.rows?, Except.mapError, Answer.ofRows] at hrows
      · simp [houtcome]
  cancelled := fun _ => rfl
  closed := fun _ => rfl

/-- The store in memory fails nothing on its own account. -/
theorem session_grants (dialect : Dialect) {l : Ledger} (hcolumn :
      Text.occursIn "checksum".toList l.createTable.text.toList = l.checksums) (timeout : Nat) :
    (session dialect).Grants id l timeout := by
  rintro r state ⟨answer, s', houtcome⟩
  rcases l.outcome_cases state r with ⟨rows, s'', hrows⟩ | ⟨reason, hrefused⟩
  · refine ⟨rows, ?_⟩
    simp [session, send_statement hcolumn, hrows, Reply.rows?, Except.mapError, Answer.ofRows]
  · rw [id_eq] at houtcome
    rw [houtcome] at hrefused
    simp at hrefused

end Store

end SchemaMigration
