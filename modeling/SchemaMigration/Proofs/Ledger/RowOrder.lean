import SchemaMigration.Proofs.Migration.Blame

/-!
# Rows in another order

A database may answer with the rows of the ledger in any order. What is read from them is sorted
afterwards, so only records that share a version can change places.

* `Row.HasVersion`: what a row needs in order to be a record.
* `SameUpToTies`: two lists of records that differ in the order of those that share a version.
* `Ledger.ReadAlike`: what two readings of the same rows have in common.
* `Ledger.readAlike_of_perm`: rows in another order are read alike.
-/

namespace SchemaMigration

/-! ## Versions in rows -/

/-- The first cell of the row is an integer of thirty-two bits without a sign. -/
def Row.HasVersion (row : Row) : Prop :=
  ∃ v : Int, row[0]? = some (.int v) ∧ 0 ≤ v ∧ v ≤ 4294967295

/-- The version in the first cell of a row. -/
def Row.version (row : Row) : Version :=
  match row.int? 0 with
  | some v => v.toNat
  | none => Version.none

/-- The greatest version in some rows, zero for none. -/
def newestIn (rows : List Row) : Version :=
  (rows.map Row.version).foldr max Version.none

theorem Row.int?_eq_some_iff {row : Row} {column : Nat} {v : Int} :
    row.int? column = some v ↔ row[column]? = some (.int v) := by
  unfold Row.int?
  split
  · simp [*]
  · next hnot =>
    simp only [reduceCtorEq, false_iff]
    exact hnot v

namespace Ledger

variable {l : Ledger} {rows rows' : List Row} {records records' : List AppliedScript}

theorem exists_decodeRow_iff {row : Row} :
    (∃ record, l.decodeRow row = .ok record) ↔ row.HasVersion := by
  have hgreatest : (versionBound : Int) = 4294967295 + 1 := by decide
  constructor
  · rintro ⟨record, hrow⟩
    unfold decodeRow at hrow
    rcases hversion : row.int? 0 with _ | v
    · simp [hversion] at hrow
    · by_cases hbounds : 0 ≤ v ∧ v < versionBound
      · exact ⟨v, Row.int?_eq_some_iff.mp hversion, hbounds.1, by omega⟩
      · simp [hversion, hbounds] at hrow
  · rintro ⟨v, hcell, hnonneg, hle⟩
    obtain ⟨n, rfl⟩ := Int.eq_ofNat_of_zero_le hnonneg
    have hbound : n < versionBound := by omega
    exact ⟨_, decodeRow_of_version (Row.int?_eq_some_iff.mpr hcell) hbound⟩

theorem exists_decodeRows_iff :
    (∃ records, l.decodeRows rows = .ok records) ↔ ∀ row ∈ rows, row.HasVersion := by
  constructor
  · rintro ⟨records, hrows⟩ row hrow
    obtain ⟨record, -, hok⟩ := exists_record_of_mem hrows hrow
    exact exists_decodeRow_iff.mp ⟨record, hok⟩
  · intro h
    exact decodeRows_of_forall fun row hrow => exists_decodeRow_iff.mpr (h row hrow)

/-- The records have the versions in the rows, in the same order. -/
theorem versions_of_decodeRows (h : l.decodeRows rows = .ok records) :
    records.map (·.version) = rows.map Row.version := by
  rw [decodeRows_eq_ok_iff] at h
  induction rows generalizing records with
  | nil =>
      have hnil : records = [] := by simpa using h.symm
      rw [hnil]
      rfl
  | cons row rows ih =>
      cases records with
      | nil => simp at h
      | cons record records =>
          obtain ⟨hrow, hrows⟩ := List.cons.inj h
          have hversion : row.version = record.version := by
            rw [Row.version, (decodeRow_ok hrow).1]
            exact Int.toNat_natCast _
          rw [List.map_cons, List.map_cons, ih hrows, hversion]

theorem decodeRows_perm (h : rows.Perm rows') (hrows : l.decodeRows rows = .ok records)
    (hrows' : l.decodeRows rows' = .ok records') : records.Perm records' := by
  have hmap := h.map l.decodeRow
  rw [decodeRows_eq_ok_iff.mp hrows, decodeRows_eq_ok_iff.mp hrows'] at hmap
  exact (List.map_perm_map_iff ok_injective).mp hmap

/-- Rows in another order both decode, to the same records in another order, or neither of them
does. -/
theorem decodeRows_cases (l : Ledger) (h : rows.Perm rows') :
    (∃ records records', l.decodeRows rows = .ok records ∧ l.decodeRows rows' = .ok records' ∧
        records.Perm records') ∨
      ∃ reason reason', l.decodeRows rows = .error (.ledgerRow l.qualified reason) ∧
        l.decodeRows rows' = .error (.ledgerRow l.qualified reason') := by
  have hboth : (∃ records, l.decodeRows rows = .ok records) ↔
      ∃ records, l.decodeRows rows' = .ok records := by
    rw [exists_decodeRows_iff, exists_decodeRows_iff]
    exact forall_congr' fun row => by rw [h.mem_iff]
  rcases hrows : l.decodeRows rows with error | records
  · rcases hrows' : l.decodeRows rows' with error' | records'
    · obtain ⟨reason, rfl⟩ := error_of_decodeRows hrows
      obtain ⟨reason', rfl⟩ := error_of_decodeRows hrows'
      exact .inr ⟨reason, reason', rfl, rfl⟩
    · simp [hrows, hrows'] at hboth
  · rcases hrows' : l.decodeRows rows' with error' | records'
    · simp [hrows, hrows'] at hboth
    · exact .inl ⟨records, records', rfl, rfl, decodeRows_perm h hrows hrows'⟩

end Ledger

/-! ## Records that share a version -/

/-- The same records, in the order of their versions both times. So only records that share a
version may have changed places. -/
structure SameUpToTies (first second : List AppliedScript) : Prop where
  perm : first.Perm second
  first_ordered : first.Pairwise fun a b => a.version ≤ b.version
  second_ordered : second.Pairwise fun a b => a.version ≤ b.version

namespace SameUpToTies

variable {first second : List AppliedScript}

theorem versions (h : SameUpToTies first second) :
    first.map (·.version) = second.map (·.version) := by
  have hfirst : (first.map (·.version)).Pairwise (· ≤ ·) := List.pairwise_map.mpr h.first_ordered
  have hsecond : (second.map (·.version)).Pairwise (· ≤ ·) :=
    List.pairwise_map.mpr h.second_ordered
  exact (h.perm.map _).eq_of_pairwise (fun _ _ _ _ => Nat.le_antisymm) hfirst hsecond

theorem filter (h : SameUpToTies first second) (p : AppliedScript → Bool) :
    SameUpToTies (first.filter p) (second.filter p) where
  perm := h.perm.filter p
  first_ordered := h.first_ordered.filter p
  second_ordered := h.second_ordered.filter p

theorem lastVersion_eq (h : SameUpToTies first second) :
    lastVersion first = lastVersion second := by
  rw [lastVersion_of_sorted h.first_ordered, lastVersion_of_sorted h.second_ordered]
  exact newestVersion_perm h.perm

/-- Without ties there is one order only. -/
theorem eq_of_nodup (h : SameUpToTies first second)
    (hdistinct : (first.map (·.version)).Nodup) : first = second := by
  refine h.perm.eq_of_pairwise ?_ h.first_ordered h.second_ordered
  intro a b ha hb hab hba
  exact List.inj_on_of_nodup_map hdistinct ha (h.perm.mem_iff.mpr hb) (Nat.le_antisymm hab hba)

end SameUpToTies

theorem sameUpToTies_sortRecords {records records' : List AppliedScript}
    (h : records.Perm records') :
    SameUpToTies (Ledger.sortRecords records) (Ledger.sortRecords records') where
  perm := ((Ledger.sortRecords_perm records).trans h).trans (Ledger.sortRecords_perm records').symm
  first_ordered := Ledger.sortRecords_sorted records
  second_ordered := Ledger.sortRecords_sorted records'

/-- The names of changed scripts among two lists of records, where only records that share a version
may have changed places. -/
structure SameModified (scripts : List Script) (records records' : List AppliedScript)
    (names names' : List String) : Prop where
  same : SameUpToTies (records.filter fun record => record.Changed scripts)
    (records'.filter fun record => record.Changed scripts)
  first_names : names = (records.filter fun record => record.Changed scripts).map (·.name)
  second_names : names' = (records'.filter fun record => record.Changed scripts).map (·.name)

theorem SameUpToTies.sameModified {first second : List AppliedScript}
    (h : SameUpToTies first second) (scripts : List Script) :
    SameModified scripts first second (modifiedNames scripts first)
      (modifiedNames scripts second) :=
  ⟨h.filter _, modifiedNames_eq scripts first, modifiedNames_eq scripts second⟩

theorem SameModified.eq_nil_iff {scripts : List Script} {records records' : List AppliedScript}
    {names names' : List String} (h : SameModified scripts records records' names names') :
    names = [] ↔ names' = [] := by
  rw [h.first_names, h.second_names, List.map_eq_nil_iff, List.map_eq_nil_iff]
  constructor
  · intro hnil
    exact (hnil ▸ h.same.perm).nil_eq.symm
  · intro hnil
    exact (hnil ▸ h.same.perm).eq_nil

/-! ## Readings -/

namespace Ledger

/-- What two lists of records have in common that were read from the same rows. -/
structure SameRecords (rows : List Row) (first second : List AppliedScript) : Prop where
  same : SameUpToTies first second
  versions : first.map (·.version) = second.map (·.version)
  /-- No version is lost, and none is there twice that is not in the rows. -/
  complete : (first.map (·.version)).Perm (rows.map Row.version)
  newest : lastVersion first = newestIn rows ∧ lastVersion second = newestIn rows
  pending : ∀ scripts, pending scripts (lastVersion first) = pending scripts (lastVersion second)
  modified_iff : ∀ scripts, modifiedNames scripts first = [] ↔ modifiedNames scripts second = []
  modified : ∀ scripts, SameModified scripts first second (modifiedNames scripts first)
    (modifiedNames scripts second)
  eq_of_distinct : (rows.map Row.version).Nodup → first = second

/-- What two readings of the same rows have in common. Both succeed, or neither does, and it depends
on the first cells. -/
structure ReadAlike (rows : List Row) (first second : Except MigrationError (List AppliedScript)) :
    Prop where
  first_succeeds : (∃ records, first = .ok records) ↔ ∀ row ∈ rows, row.HasVersion
  second_succeeds : (∃ records, second = .ok records) ↔ ∀ row ∈ rows, row.HasVersion
  records : ∀ records records', first = .ok records → second = .ok records' →
    SameRecords rows records records'

variable {l : Ledger} {rows rows' : List Row}

theorem exists_map_ok_iff {α β ε : Type} {result : Except ε α} {f : α → β} :
    (∃ value, result.map f = .ok value) ↔ ∃ value, result = .ok value := by
  cases result <;> simp [Except.map]

theorem sameRecords_of_perm {records records' : List AppliedScript} (h : records.Perm records')
    (hversions : records.map (·.version) = rows.map Row.version) :
    SameRecords rows (sortRecords records) (sortRecords records') := by
  have hsame := sameUpToTies_sortRecords h
  have hcomplete : ((sortRecords records).map (·.version)).Perm (rows.map Row.version) :=
    hversions ▸ (sortRecords_perm records).map _
  have hnewest : lastVersion (sortRecords records) = newestIn rows := by
    rw [lastVersion_sortRecords, newestVersion, hversions]
    rfl
  exact {
    same := hsame
    versions := hsame.versions
    complete := hcomplete
    newest := ⟨hnewest, hsame.lastVersion_eq.symm.trans hnewest⟩
    pending := fun scripts => by rw [hsame.lastVersion_eq]
    modified_iff := fun scripts => (hsame.sameModified scripts).eq_nil_iff
    modified := hsame.sameModified
    eq_of_distinct := fun hdistinct => hsame.eq_of_nodup (hcomplete.nodup_iff.mpr hdistinct) }

/-- Rows in another order are read alike. -/
theorem readAlike_of_perm (l : Ledger) (h : rows.Perm rows') :
    ReadAlike rows ((l.decodeRows rows).map sortRecords) ((l.decodeRows rows').map sortRecords) := by
  refine ⟨exists_map_ok_iff.trans exists_decodeRows_iff, ?_, ?_⟩
  · rw [exists_map_ok_iff, exists_decodeRows_iff]
    exact forall_congr' fun row => by rw [h.mem_iff]
  · intro first second hfirst hsecond
    rcases l.decodeRows_cases h with ⟨records, records', hrows, hrows', hperm⟩ | ⟨_, _, hrows, -⟩
    · simp only [hrows, hrows', Except.map, Except.ok.injEq] at hfirst hsecond
      subst hfirst hsecond
      exact sameRecords_of_perm hperm (versions_of_decodeRows hrows)
    · simp [hrows, Except.map] at hfirst

/-- What is read is decided by the rows that the session answers with. -/
theorem result_readRecords {σ : Type} {session : Session σ} {timeout : Nat} {state : σ}
    (h : (session.send state (l.selectRows.withTimeout timeout)).1.rows? timeout = some rows) :
    (Task.trace session (l.readRecords timeout) state).result =
      (l.decodeRows rows).map sortRecords := by
  have hread := session.ask_result_of_some timeout h (MigrationError.ledgerRead l.qualified)
  simp only [readRecords, Task.trace_bind, Task.trace_execute, Task.trace_ofExcept, Task.trace_pure,
    Trace.bind_pure, Trace.bind_of_ok hread, Answer.ofRows, Trace.map]

end Ledger

end SchemaMigration
