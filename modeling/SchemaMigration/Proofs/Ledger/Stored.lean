import SchemaMigration.Proofs.Migration.Course
import SchemaMigration.Proofs.Store.Request

/-!
# Stored rows and the records read from them

What a run reads from the ledger, in whatever order, are the records in the stored rows. So which
scripts are pending is a matter of the stored rows.

* `Ledger.decodeRows_cells`: rows that decode give the records in the stored rows.
* `newestRow`: the greatest version that is stored.
* `pendingAfter`: the scripts that are newer than every stored row.
* `Job.duty_of_stored`: what a run decides on is a matter of the stored rows.
-/

namespace SchemaMigration

/-- The greatest version in stored rows, zero for none. -/
def newestRow (rows : List StoredRow) : Int :=
  (rows.map (·.version)).foldr max Version.none

/-- The scripts that are newer than every stored row, in the same order. -/
def pendingAfter (rows : List StoredRow) (scripts : List Script) : List Script :=
  scripts.filter fun s => newestRow rows < s.version

theorem newestRow_le_iff {rows : List StoredRow} {bound : Nat} :
    newestRow rows ≤ bound ↔ ∀ row ∈ rows, row.version ≤ bound := by
  induction rows with
  | nil => simp [newestRow, Version.none]
  | cons row rows ih =>
      have hcons : newestRow (row :: rows) = max row.version (newestRow rows) := rfl
      rw [hcons, List.forall_mem_cons, ← ih]
      exact Int.max_le

theorem newestRow_nonneg (rows : List StoredRow) : 0 ≤ newestRow rows := by
  induction rows with
  | nil => exact Int.le_refl 0
  | cons row rows ih => exact Int.le_trans ih (Int.le_max_right ..)

theorem version_le_newestRow {rows : List StoredRow} {row : StoredRow} (h : row ∈ rows) :
    row.version ≤ newestRow rows := by
  have hself : ((newestRow rows).toNat : Int) = newestRow rows :=
    Int.toNat_of_nonneg (newestRow_nonneg rows)
  rw [← hself]
  exact newestRow_le_iff.mp hself.ge row h

theorem newestRow_append (first second : List StoredRow) :
    newestRow (first ++ second) = max (newestRow first) (newestRow second) := by
  induction first with
  | nil => exact (Int.max_eq_right (newestRow_nonneg second)).symm
  | cons row rows ih =>
      have hcons : ∀ rest, newestRow (row :: rest) = max row.version (newestRow rest) := by
        intro rest
        rfl
      rw [List.cons_append, hcons, hcons, ih, max_assoc]

theorem pending_eq_pendingAfter {rows : List StoredRow} {version : Version}
    (h : (version : Int) = newestRow rows) (scripts : List Script) :
    pending scripts version = pendingAfter rows scripts := by
  unfold pending pendingAfter
  congr 1
  funext s
  rw [← h]
  exact decide_eq_decide.mpr Int.ofNat_lt.symm

/-- A row whose version is one. -/
def StoredRow.Sound (row : StoredRow) : Prop :=
  0 ≤ row.version ∧ row.version < Ledger.versionBound

/-- The row that holds a record. -/
def AppliedScript.row (record : AppliedScript) : StoredRow where
  version := record.version
  name := record.name
  checksum := record.checksum

namespace Ledger

/-- A script is stored as it is reported. -/
theorem row_recordOf (l : Ledger) (script : Script) :
    (l.recordOf script).row = l.storedRow script := rfl

/-- The record in a stored row, as far as the ledger reads it. -/
def recordIn (l : Ledger) (row : StoredRow) : AppliedScript where
  version := row.version.toNat
  name := row.name
  checksum := if l.checksums then row.checksum else none

theorem decodeRow_cells (l : Ledger) (row : StoredRow) {record : AppliedScript} :
    l.decodeRow (Store.StoredRow.cells l.checksums row) = .ok record ↔
      row.Sound ∧ record = l.recordIn row := by
  have hversion : (Store.StoredRow.cells l.checksums row).int? 0 = some row.version := rfl
  have hname : (Store.StoredRow.cells l.checksums row).text? 1 = some row.name := rfl
  have hchecksum : (if l.checksums then (Store.StoredRow.cells l.checksums row).text? 2 else none) =
      if l.checksums then row.checksum else none := by
    rcases hcolumn : l.checksums with _ | _
    · rfl
    · cases hrow : row.checksum <;>
        simp [Store.StoredRow.cells, Store.textCell, Row.text?, hrow]
  unfold decodeRow
  rw [hversion, hname, hchecksum]
  dsimp only
  by_cases hsound : 0 ≤ row.version ∧ row.version < versionBound
  · rw [if_pos hsound, Except.ok.injEq]
    constructor
    · intro hrecord
      exact ⟨hsound, hrecord.symm⟩
    · intro hboth
      exact hboth.2.symm
  · rw [if_neg hsound]
    simp [StoredRow.Sound, hsound]

/-- Rows that decode are the cells of sound stored rows, and give the records in these. -/
theorem decodeRows_cells {l : Ledger} {rows : List Row} {stored : List StoredRow}
    {records : List AppliedScript}
    (h : rows.Perm (stored.map (Store.StoredRow.cells l.checksums)))
    (hrows : l.decodeRows rows = .ok records) :
    (∀ row ∈ stored, row.Sound) ∧ records.Perm (stored.map l.recordIn) := by
  -- decoding the rows and decoding the cells of the stored rows come to the same, in some order
  have hperm : (records.map Except.ok).Perm
      (stored.map fun row => l.decodeRow (Store.StoredRow.cells l.checksums row)) := by
    have hmap := h.map l.decodeRow
    rw [decodeRows_eq_ok_iff.mp hrows, List.map_map] at hmap
    exact hmap
  have hdecode : ∀ row ∈ stored, row.Sound ∧
      l.decodeRow (Store.StoredRow.cells l.checksums row) = .ok (l.recordIn row) := by
    intro row hrow
    have hmem := hperm.mem_iff.mpr (List.mem_map_of_mem hrow)
    obtain ⟨record, -, hok⟩ := List.mem_map.mp hmem
    have hboth := (l.decodeRow_cells row).mp hok.symm
    exact ⟨hboth.1, hboth.2 ▸ hok.symm⟩
  refine ⟨fun row hrow => (hdecode row hrow).1, ?_⟩
  have hstored : (stored.map fun row => l.decodeRow (Store.StoredRow.cells l.checksums row)) =
      (stored.map l.recordIn).map Except.ok := by
    rw [List.map_map]
    exact List.map_congr_left fun row hrow => (hdecode row hrow).2
  rw [hstored] at hperm
  exact (List.map_perm_map_iff ok_injective).mp hperm

/-- The cells of sound rows decode. -/
theorem decodeRows_of_sound {l : Ledger} {rows : List Row} {stored : List StoredRow}
    (h : rows.Perm (stored.map (Store.StoredRow.cells l.checksums)))
    (hsound : ∀ row ∈ stored, row.Sound) : ∃ records, l.decodeRows rows = .ok records := by
  apply decodeRows_of_forall
  intro cells hcells
  obtain ⟨row, hrow, rfl⟩ := List.mem_map.mp (h.mem_iff.mp hcells)
  exact ⟨_, (l.decodeRow_cells row).mpr ⟨hsound row hrow, rfl⟩⟩

/-- The newest record of sound rows is in the newest row. -/
theorem newestVersion_recordIn {l : Ledger} {stored : List StoredRow}
    (h : ∀ row ∈ stored, row.Sound) :
    (newestVersion (stored.map l.recordIn) : Int) = newestRow stored := by
  induction stored with
  | nil => rfl
  | cons row stored ih =>
      obtain ⟨hrow, hstored⟩ := List.forall_mem_cons.mp h
      have hversion : ((l.recordIn row).version : Int) = row.version := Int.toNat_of_nonneg hrow.1
      have hcons : newestRow (row :: stored) = max row.version (newestRow stored) := rfl
      have hmax : ∀ a b : Nat, ((max a b : Nat) : Int) = max (a : Int) b := by omega
      rw [List.map_cons, newestVersion_cons, hcons, ← ih hstored, ← hversion]
      exact hmax _ _

/-- The version at which a run goes on is the newest one that is stored. -/
theorem newestVersion_of_decodeRows {l : Ledger} {rows : List Row} {stored : List StoredRow}
    {records : List AppliedScript}
    (h : rows.Perm (stored.map (Store.StoredRow.cells l.checksums)))
    (hrows : l.decodeRows rows = .ok records) :
    (newestVersion records : Int) = newestRow stored := by
  obtain ⟨hsound, hperm⟩ := decodeRows_cells h hrows
  rw [newestVersion_perm hperm]
  exact newestVersion_recordIn hsound

end Ledger

/-! ## Changed scripts -/

/-- The row has a checksum, and it is not that of the script of its name. -/
def StoredRow.Differs (row : StoredRow) (scripts : List Script) : Prop :=
  ∃ expected, row.checksum = some expected ∧
    ∃ script ∈ scripts, script.name = row.name ∧ script.checksum ≠ expected

theorem Ledger.differs_of_recordIn {l : Ledger} {row : StoredRow} {scripts : List Script}
    (h : (l.recordIn row).Differs scripts) : row.Differs scripts := by
  obtain ⟨expected, hchecksum, hscript⟩ := h
  refine ⟨expected, ?_, hscript⟩
  simp only [Ledger.recordIn] at hchecksum
  split at hchecksum
  · exact hchecksum
  · cases hchecksum

/-- If a name is reported, then there is a stored row of that name that differs. -/
theorem Ledger.differs_of_modifiedNames {l : Ledger} {rows : List Row} {stored : List StoredRow}
    {records : List AppliedScript} {scripts : List Script} {name : String}
    (h : rows.Perm (stored.map (Store.StoredRow.cells l.checksums)))
    (hrows : l.decodeRows rows = .ok records)
    (hname : name ∈ modifiedNames scripts (Ledger.sortRecords records)) :
    ∃ row ∈ stored, row.Differs scripts := by
  obtain ⟨record, hrecord, -, hdiffers⟩ := differs_of_mem_modifiedNames hname
  have hmem := (decodeRows_cells h hrows).2.mem_iff.mp
    ((sortRecords_perm records).mem_iff.mp hrecord)
  obtain ⟨row, hrow, rfl⟩ := List.mem_map.mp hmem
  exact ⟨row, hrow, differs_of_recordIn hdiffers⟩

/-! ## What a run decides -/

/-- The errors about the ledger as it has been read. -/
def MigrationError.AboutLedger : MigrationError → Prop
  | .ledgerRead _ _ | .ledgerRow _ _ | .modified _ _ => True
  | _ => False

/-- The errors of a run that stops at a statement of a script or at its record. -/
def MigrationError.AtScript : MigrationError → Prop
  | .script _ _ | .ledgerWrite _ _ _ => True
  | _ => False

theorem MigrationError.AtScript.not_aboutLedger {error : MigrationError} (h : error.AtScript) :
    ¬ error.AboutLedger := by
  cases error with
  | script => exact id
  | ledgerWrite => exact id
  | _ => exact h.elim

theorem MigrationError.AboutLedger.ne_close {error : MigrationError} (h : error.AboutLedger)
    (reason : SessionError) : error ≠ .close reason := by
  rintro rfl
  exact h

theorem Job.aboutLedger_of_duty {job : Job} {scripts : List Script} {rows : List Row}
    {error : MigrationError} (h : job.duty scripts rows = .error error) : error.AboutLedger := by
  unfold Job.duty at h
  rcases hrows : job.ledger.decodeRows rows with other | records
  · obtain ⟨reason, hreason⟩ := Ledger.error_of_decodeRows hrows
    simp only [hrows, Except.error.injEq] at h
    rw [← h, hreason]
    trivial
  · rcases hnames : modifiedNames scripts (Ledger.sortRecords records) with _ | ⟨name, names⟩
    · simp [hrows, hnames] at h
    · simp only [hrows, hnames, Except.error.injEq] at h
      rw [← h]
      trivial

/-- A run stops for a changed script if the rows decode and the first name that is reported is that
of the script. -/
theorem Job.duty_eq_modified {job : Job} {scripts : List Script} {rows : List Row}
    {name table : String} : job.duty scripts rows = .error (.modified name table) ↔
      table = job.ledger.qualified ∧ ∃ records names, job.ledger.decodeRows rows = .ok records ∧
        modifiedNames scripts (Ledger.sortRecords records) = name :: names := by
  unfold Job.duty
  rcases hrows : job.ledger.decodeRows rows with error | records
  · obtain ⟨reason, rfl⟩ := Ledger.error_of_decodeRows hrows
    simp
  · rcases hnames : modifiedNames scripts (Ledger.sortRecords records) with _ | ⟨first, names⟩
    · simp [hnames]
    · simp [hnames, and_comm, eq_comm]

/-- What a run decides on reading the ledger: an error about the ledger, or the pending scripts. -/
theorem Job.duty_of_stored {job : Job} {rows : List Row} {stored : List StoredRow}
    (h : rows.Perm (stored.map (Store.StoredRow.cells job.ledger.checksums)))
    (scripts : List Script) :
    (∃ error, job.duty scripts rows = .error error ∧ error.AboutLedger) ∨
      ∃ version : Version, (version : Int) = newestRow stored ∧
        job.duty scripts rows = .ok (version, pendingAfter stored scripts) := by
  rcases hduty : job.duty scripts rows with error | due
  · exact .inl ⟨error, rfl, aboutLedger_of_duty hduty⟩
  · right
    unfold Job.duty at hduty
    rcases hrows : job.ledger.decodeRows rows with error | records
    · simp [hrows] at hduty
    · have hversion := Ledger.newestVersion_of_decodeRows h hrows
      have hpending := pending_eq_pendingAfter hversion scripts
      refine ⟨newestVersion records, hversion, ?_⟩
      rcases hnames : modifiedNames scripts (Ledger.sortRecords records) with _ | ⟨name, names⟩
      · simp [hrows, hnames, hpending] at hduty
        rw [← hduty]
      · simp [hrows, hnames] at hduty

end SchemaMigration
