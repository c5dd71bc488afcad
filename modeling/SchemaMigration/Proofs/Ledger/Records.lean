import Mathlib.Data.List.Nodup
import Mathlib.Data.List.Perm.Basic
import Mathlib.Tactic.Common
import SchemaMigration.Migration

/-!
# Records and their order

A run looks at the records of the ledger sorted by version, but what it decides does not depend on
the order in which the database returns them.

* `Ledger.stablySorted_sortRecords`: records of one version stay in order.
* `lastVersion_sortRecords`: the last version after sorting is the newest version of all.
* `least_of_modifiedNames`: the first changed script that is reported has the least version.
* `modifiedNames_sortRecords_eq_nil`: whether a script has changed does not depend on the order.
* `decodeRows_eq_ok_iff`: rows decode if each of them does.
* `error_of_decodeRows`: otherwise one of them is reported.
-/

namespace SchemaMigration

/-- The greatest version of some records, in any order. -/
def newestVersion (records : List AppliedScript) : Version :=
  (records.map (·.version)).foldr max Version.none

@[simp] theorem newestVersion_nil : newestVersion [] = Version.none := rfl

@[simp] theorem newestVersion_cons (record : AppliedScript) (records : List AppliedScript) :
    newestVersion (record :: records) = max record.version (newestVersion records) := rfl

theorem newestVersion_perm {first second : List AppliedScript} (h : first.Perm second) :
    newestVersion first = newestVersion second := by
  induction h with
  | nil => rfl
  | cons record h ih => simp only [newestVersion_cons, ih]
  | swap a b records => exact Nat.max_left_comm ..
  | trans h₁ h₂ ih₁ ih₂ => exact ih₁.trans ih₂

theorem newestVersion_le_iff {records : List AppliedScript} {bound : Version} :
    newestVersion records ≤ bound ↔ ∀ record ∈ records, record.version ≤ bound := by
  induction records with
  | nil => simp [Version.none]
  | cons record records ih =>
      rw [newestVersion_cons, List.forall_mem_cons, ← ih]
      exact Nat.max_le

theorem version_le_newestVersion {records : List AppliedScript} {record : AppliedScript}
    (h : record ∈ records) : record.version ≤ newestVersion records :=
  newestVersion_le_iff.mp (Nat.le_refl _) record h

/-- In a list that is sorted by version the last record is a newest one. -/
theorem lastVersion_of_sorted {records : List AppliedScript}
    (h : records.Pairwise fun a b => a.version ≤ b.version) :
    lastVersion records = newestVersion records := by
  induction records with
  | nil => rfl
  | cons record records ih =>
      rcases List.eq_nil_or_concat records with hnil | ⟨front, last, hlast⟩
      · subst hnil
        simp [lastVersion, Version.none]
      · -- a further record is at least as new as the first
        have hrec := ih (List.pairwise_cons.mp h).2
        have hle : record.version ≤ last.version :=
          (List.pairwise_cons.mp h).1 last (by simp [hlast])
        have hmem : last.version ≤ newestVersion records :=
          version_le_newestVersion (by simp [hlast])
        have hsame : lastVersion (record :: records) = lastVersion records := by
          simp [lastVersion, hlast, List.getLast?_cons]
        rw [hsame, hrec, newestVersion_cons]
        exact (Nat.max_eq_right (Nat.le_trans hle hmem)).symm

namespace Ledger

theorem sortRecords_perm (records : List AppliedScript) : (sortRecords records).Perm records :=
  List.mergeSort_perm _ _

theorem sortRecords_sorted (records : List AppliedScript) :
    (sortRecords records).Pairwise fun a b => a.version ≤ b.version := by
  have h := @List.pairwise_mergeSort _ (fun a b : AppliedScript => decide (a.version ≤ b.version))
    (fun a b c hab hbc => by simpa using Nat.le_trans (by simpa using hab) (by simpa using hbc))
    (fun a b => by simpa using Nat.le_total a.version b.version) records
  simpa [sortRecords] using h

/-- A list of records sorted by version, those of one version in the order that they had. -/
structure StablySorted (records sorted : List AppliedScript) : Prop where
  perm : sorted.Perm records
  ordered : sorted.Pairwise fun a b => a.version ≤ b.version
  stable : ∀ version : Version,
    sorted.filter (·.version = version) = records.filter (·.version = version)

theorem stablySorted_sortRecords (records : List AppliedScript) :
    StablySorted records (sortRecords records) where
  perm := sortRecords_perm records
  ordered := sortRecords_sorted records
  stable := by
    intro version
    -- the records of one version are sorted as they stand, so sorting keeps them in this order
    have hordered : (records.filter (·.version = version)).Pairwise fun a b =>
        decide (a.version ≤ b.version) = true := by
      refine List.pairwise_of_forall_mem_list fun a ha b hb => ?_
      have hversions : a.version = version ∧ b.version = version := by
        simpa using And.intro (List.mem_filter.mp ha).2 (List.mem_filter.mp hb).2
      simp [hversions.1, hversions.2]
    have hsub : (records.filter (·.version = version)).Sublist (sortRecords records) :=
      List.sublist_mergeSort
        (fun a b c hab hbc => by
          simpa using Nat.le_trans (of_decide_eq_true hab) (of_decide_eq_true hbc))
        (fun a b => by simpa using Nat.le_total a.version b.version)
        hordered List.filter_sublist
    have hkept := hsub.filter (·.version = version)
    rw [List.filter_filter] at hkept
    simp only [Bool.and_self] at hkept
    have hlength := ((sortRecords_perm records).filter (·.version = version)).length_eq
    exact (hkept.eq_of_length hlength.symm).symm

/-- The version at which a run goes on is the newest one in the ledger, however the ledger was
read. -/
theorem lastVersion_sortRecords (records : List AppliedScript) :
    lastVersion (sortRecords records) = newestVersion records := by
  rw [lastVersion_of_sorted (sortRecords_sorted records)]
  exact newestVersion_perm (sortRecords_perm records)

/-! ## Rows -/

theorem ok_injective :
    Function.Injective (Except.ok : AppliedScript → Except MigrationError AppliedScript) :=
  fun a b hab => by simpa using hab

theorem decodeRows_eq_ok_iff {l : Ledger} {rows : List Row} {records : List AppliedScript} :
    l.decodeRows rows = .ok records ↔ rows.map l.decodeRow = records.map Except.ok := by
  induction rows generalizing records with
  | nil =>
      constructor
      · intro h
        have hnil : records = [] := by simpa [decodeRows, eq_comm] using h
        simp [hnil]
      · intro h
        have hnil : records = [] := by simpa using h.symm
        simp [decodeRows, hnil]
  | cons row rows ih =>
      simp only [decodeRows, bind, Except.bind]
      rcases hrow : l.decodeRow row with error | record
      · cases records <;> simp [hrow]
      · -- this row decodes, so the others decide
        rcases hrows : l.decodeRows rows with error | rest
        · have hnot : ∀ records : List AppliedScript,
              rows.map l.decodeRow ≠ records.map Except.ok := by
            intro records heq
            rw [ih.mpr heq] at hrows
            exact absurd hrows (by simp)
          cases records with
          | nil => simp
          | cons first others => simp [hrow, hnot others]
        · have hrest := ih.mp hrows
          cases records with
          | nil => simp
          | cons first others =>
              simp only [List.map_cons, hrow, hrest, Except.ok.injEq, List.cons.injEq]
              constructor
              · rintro ⟨rfl, rfl⟩
                exact ⟨rfl, rfl⟩
              · rintro ⟨rfl, hothers⟩
                exact ⟨rfl, List.map_injective_iff.mpr ok_injective hothers⟩

theorem decodeRows_of_forall {l : Ledger} {rows : List Row}
    (h : ∀ row ∈ rows, ∃ record, l.decodeRow row = .ok record) :
    ∃ records, l.decodeRows rows = .ok records := by
  induction rows with
  | nil => exact ⟨[], rfl⟩
  | cons row rows ih =>
      obtain ⟨⟨record, hrow⟩, hothers⟩ := List.forall_mem_cons.mp h
      obtain ⟨records, hrows⟩ := ih hothers
      exact ⟨record :: records, by simp [decodeRows, hrow, hrows, bind, Except.bind]⟩

theorem exists_row_of_mem {l : Ledger} {rows : List Row} {records : List AppliedScript}
    (h : l.decodeRows rows = .ok records) {record : AppliedScript} (hrecord : record ∈ records) :
    ∃ row ∈ rows, l.decodeRow row = .ok record := by
  have hmem : Except.ok record ∈ rows.map l.decodeRow := by
    rw [decodeRows_eq_ok_iff.mp h]
    exact List.mem_map_of_mem hrecord
  exact List.mem_map.mp hmem

theorem exists_record_of_mem {l : Ledger} {rows : List Row} {records : List AppliedScript}
    (h : l.decodeRows rows = .ok records) {row : Row} (hrow : row ∈ rows) :
    ∃ record ∈ records, l.decodeRow row = .ok record := by
  have hmem : l.decodeRow row ∈ records.map Except.ok := by
    rw [← decodeRows_eq_ok_iff.mp h]
    exact List.mem_map_of_mem hrow
  obtain ⟨record, hrecord, hok⟩ := List.mem_map.mp hmem
  exact ⟨record, hrecord, hok.symm⟩

/-- What a record has from its row. -/
theorem decodeRow_ok {l : Ledger} {row : Row} {record : AppliedScript}
    (h : l.decodeRow row = .ok record) :
    row.int? 0 = some (record.version : Int) ∧ record.name = (row.text? 1).getD "" ∧
      record.checksum = if l.checksums then row.text? 2 else none := by
  unfold decodeRow at h
  rcases hversion : row.int? 0 with _ | v
  · simp [hversion] at h
  · by_cases hbounds : 0 ≤ v ∧ v < versionBound
    · simp only [hversion, hbounds, and_self, if_true, Except.ok.injEq] at h
      subst h
      exact ⟨congrArg some (Int.toNat_of_nonneg hbounds.1).symm, rfl, rfl⟩
    · simp [hversion, hbounds] at h

/-- A row with a version in its first column decodes, whatever else it holds. -/
theorem decodeRow_of_version {l : Ledger} {row : Row} {version : Version}
    (hrow : row.int? 0 = some (version : Int)) (h : version < versionBound) :
    l.decodeRow row = .ok ⟨version, (row.text? 1).getD "",
      if l.checksums then row.text? 2 else none⟩ := by
  have hbounds : (0 : Int) ≤ version ∧ (version : Int) < versionBound :=
    ⟨Int.natCast_nonneg _, Int.ofNat_lt.mpr h⟩
  unfold decodeRow
  rw [hrow]
  dsimp only
  rw [if_pos hbounds, Int.toNat_natCast]

/-- Rows that do not decode are reported as malformed. -/
theorem error_of_decodeRows {l : Ledger} {rows : List Row} {error : MigrationError}
    (h : l.decodeRows rows = .error error) : ∃ reason, error = .ledgerRow l.qualified reason := by
  induction rows with
  | nil => simp [decodeRows] at h
  | cons row rows ih =>
      simp only [decodeRows, bind, Except.bind] at h
      rcases hrow : l.decodeRow row with first | record
      · -- the first row that does not decode is the one reported
        simp only [hrow, Except.error.injEq] at h
        subst h
        unfold decodeRow at hrow
        split at hrow
        · exact ⟨_, (Except.error.inj hrow).symm⟩
        · split at hrow
          · cases hrow
          · exact ⟨_, (Except.error.inj hrow).symm⟩
      · rcases hrows : l.decodeRows rows with first | rest
        · simp only [hrow, hrows, Except.error.injEq] at h
          subst h
          exact ih hrows
        · simp [hrow, hrows] at h

end Ledger

/-! ## Changed scripts -/

/-- The record has a checksum, and it is not that of the script of its name. -/
def AppliedScript.Differs (record : AppliedScript) (scripts : List Script) : Prop :=
  ∃ expected, record.checksum = some expected ∧
    ∃ script ∈ scripts, script.name = record.name ∧ script.checksum ≠ expected

theorem modifiedNames_append (scripts : List Script) (first second : List AppliedScript) :
    modifiedNames scripts (first ++ second) =
      modifiedNames scripts first ++ modifiedNames scripts second := by
  simp [modifiedNames, modifiedRecords]

/-- A name that is reported is that of a record that differs. -/
theorem differs_of_mem_modifiedNames {scripts : List Script} {records : List AppliedScript}
    {name : String} (h : name ∈ modifiedNames scripts records) :
    ∃ record ∈ records, record.name = name ∧ record.Differs scripts := by
  simp only [modifiedNames, modifiedRecords, List.mem_map, List.mem_filterMap] at h
  obtain ⟨⟨expected, script⟩, ⟨record, hrecord, hfound⟩, rfl⟩ := h
  rcases hchecksum : record.checksum with _ | checksum
  · simp [hchecksum] at hfound
  · rcases hscript : scripts.find? (fun s => s.name == record.name) with _ | other
    · simp [hchecksum, hscript] at hfound
    · have hname : other.name = record.name := by simpa using List.find?_some hscript
      by_cases hsame : other.checksum = checksum
      · simp [hchecksum, hscript, hsame] at hfound
      · simp only [hchecksum, hscript, hsame, Option.bind_eq_bind, Option.bind_some, if_false,
          Option.some.injEq, Prod.mk.injEq] at hfound
        obtain ⟨rfl, rfl⟩ := hfound
        exact ⟨record, hrecord, hname.symm, checksum, hchecksum, other,
          List.mem_of_find?_eq_some hscript, hname, hsame⟩

/-- A record that differs is reported, as scripts have names of their own. -/
theorem mem_modifiedNames_of_differs {scripts : List Script} (hnames : (scripts.map (·.name)).Nodup)
    {records : List AppliedScript} {record : AppliedScript} (hrecord : record ∈ records)
    (h : record.Differs scripts) : record.name ∈ modifiedNames scripts records := by
  obtain ⟨expected, hchecksum, script, hscript, hname, hdiffers⟩ := h
  have hfind : scripts.find? (fun s => s.name == record.name) = some script := by
    rcases hother : scripts.find? (fun s => s.name == record.name) with _ | other
    · exact absurd hname (by simpa using List.find?_eq_none.mp hother script hscript)
    · have hsame : other.name = record.name := by simpa using List.find?_some hother
      have heq : other = script := List.inj_on_of_nodup_map hnames
        (List.mem_of_find?_eq_some hother) hscript (hsame.trans hname.symm)
      exact hother.trans (congrArg some heq)
  simp only [modifiedNames, modifiedRecords, List.mem_map, List.mem_filterMap]
  refine ⟨(expected, script), ⟨record, hrecord, ?_⟩, hname⟩
  simp [hchecksum, hfind, hdiffers]

/-- The first name that is reported of records in the order of their versions is that of a least
version. -/
theorem least_of_modifiedNames {scripts : List Script} (hnames : (scripts.map (·.name)).Nodup)
    {records : List AppliedScript} (hsorted : records.Pairwise fun a b => a.version ≤ b.version)
    {name : String} {names : List String} (h : modifiedNames scripts records = name :: names) :
    ∃ record ∈ records, record.name = name ∧ record.Differs scripts ∧
      ∀ other ∈ records, other.Differs scripts → record.version ≤ other.version := by
  induction records with
  | nil => cases h
  | cons record records ih =>
      obtain ⟨hle, hrest⟩ := List.pairwise_cons.mp hsorted
      rw [← List.singleton_append, modifiedNames_append] at h
      rcases hfirst : modifiedNames scripts [record] with _ | ⟨other, others⟩
      · -- the first record does not differ, so the others decide
        have hnot : ¬ record.Differs scripts := by
          intro hdiffers
          have hmem := mem_modifiedNames_of_differs hnames (List.mem_singleton_self _) hdiffers
          rw [hfirst] at hmem
          cases hmem
        rw [hfirst, List.nil_append] at h
        obtain ⟨found, hfound, hname, hdiffers, hleast⟩ := ih hrest h
        refine ⟨found, List.mem_cons_of_mem _ hfound, hname, hdiffers, ?_⟩
        exact List.forall_mem_cons.mpr ⟨fun hother => absurd hother hnot, hleast⟩
      · rw [hfirst, List.cons_append, List.cons.injEq] at h
        have hmem : name ∈ modifiedNames scripts [record] := by simp [hfirst, h.1]
        obtain ⟨found, hfound, hname, hdiffers⟩ := differs_of_mem_modifiedNames hmem
        rw [List.mem_singleton.mp hfound] at hname hdiffers
        refine ⟨record, List.mem_cons_self, hname, hdiffers, ?_⟩
        exact List.forall_mem_cons.mpr ⟨fun _ => Nat.le_refl _, fun other hother _ =>
          hle other hother⟩

theorem modifiedNames_perm (scripts : List Script) {first second : List AppliedScript}
    (h : first.Perm second) : (modifiedNames scripts first).Perm (modifiedNames scripts second) :=
  (h.filterMap _).map _

theorem modifiedNames_sortRecords_eq_nil (scripts : List Script) (records : List AppliedScript) :
    modifiedNames scripts (Ledger.sortRecords records) = [] ↔
      modifiedNames scripts records = [] := by
  have hperm := modifiedNames_perm scripts (Ledger.sortRecords_perm records)
  constructor
  · intro h
    rw [h] at hperm
    exact hperm.nil_eq.symm
  · intro h
    rw [h] at hperm
    exact hperm.eq_nil

end SchemaMigration
