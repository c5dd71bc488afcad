import Mathlib.Tactic.Common
import SchemaMigration.Ledger
import SchemaMigration.Store

/-!
# Keyspaces and tables of a store

What a store says about a keyspace after the keyspace has been created, dropped or changed, and
where it keeps a ledger.

* `Store.keyspace?_setKeyspace`, `Store.keyspace?_create`, `Store.keyspace?_erase`: the tables of
  the keyspace that was touched.
* `Store.keyspace?_setKeyspace_of_ne` and the like: the other keyspaces, which stay as they are.
* `Ledger.stored?`: the table that a ledger names.
* `Ledger.splitName_qualified`: the qualified name of a ledger leads to its keyspace and its table.
-/

namespace SchemaMigration

namespace Store

variable {α : Type} {key : String} {list : List (String × α)}

theorem look_append_self (h : look key list = none) (value : α) :
    look key (list ++ [(key, value)]) = some value := by
  have hnone : list.find? (fun entry => entry.1 == key) = none := by
    simpa [look] using h
  simp [look, List.find?_append, hnone]

theorem look_erase_self (key : String) (list : List (String × α)) :
    look key (erase key list) = none := by
  have hnone : (erase key list).find? (fun entry => entry.1 == key) = none := by
    rw [List.find?_eq_none]
    intro entry hentry
    have hne := (List.mem_filter.mp hentry).2
    simpa [bne] using hne
  simp [look, hnone]

theorem look_replace_self {old : α} (h : look key list = some old) (value : α) :
    look key (replace key value list) = some value := by
  induction list with
  | nil => simp [look] at h
  | cons entry list ih =>
      by_cases hkey : entry.1 = key
      · simp [look, replace, hkey]
      · have hrest : look key list = some old := by
          simpa [look, hkey] using h
        have hreplaced := ih hrest
        simpa [look, replace, hkey] using hreplaced

section Others

variable {other : String} (h : other ≠ key)
include h

theorem look_append_of_ne (list : List (String × α)) (value : α) :
    look other (list ++ [(key, value)]) = look other list := by
  simp [look, List.find?_append, h.symm]

theorem look_erase_of_ne (list : List (String × α)) :
    look other (erase key list) = look other list := by
  induction list with
  | nil => rfl
  | cons entry list ih =>
      unfold look erase at ih ⊢
      by_cases hkey : entry.1 = key
      · simpa [hkey, h.symm] using ih
      · by_cases hother : entry.1 = other
        · simp [hother, h]
        · simpa [hkey, hother] using ih

theorem look_replace_of_ne (value : α) (list : List (String × α)) :
    look other (replace key value list) = look other list := by
  induction list with
  | nil => rfl
  | cons entry list ih =>
      unfold look replace at ih ⊢
      by_cases hkey : entry.1 = key
      · simpa [hkey, h.symm] using ih
      · by_cases hother : entry.1 = other
        · simp [hother, h]
        · simpa [hkey, hother] using ih

end Others

theorem keyspace?_setKeyspace {s : Store} {keyspace : String} {old : StoredKeyspace}
    (h : s.keyspace? keyspace = some old) (tables : StoredKeyspace) :
    (s.setKeyspace keyspace tables).keyspace? keyspace = some tables :=
  look_replace_self h tables

theorem keyspace?_create {s : Store} {keyspace : String} (h : s.keyspace? keyspace = none) :
    (⟨s.keyspaces ++ [(keyspace, [])]⟩ : Store).keyspace? keyspace = some [] :=
  look_append_self h []

theorem keyspace?_erase (s : Store) (keyspace : String) :
    (⟨erase keyspace s.keyspaces⟩ : Store).keyspace? keyspace = none :=
  look_erase_self keyspace s.keyspaces

section Others

variable {keyspace other : String} (h : other ≠ keyspace) (s : Store)
include h

theorem keyspace?_setKeyspace_of_ne (tables : StoredKeyspace) :
    (s.setKeyspace keyspace tables).keyspace? other = s.keyspace? other :=
  look_replace_of_ne h tables s.keyspaces

theorem keyspace?_create_of_ne :
    (⟨s.keyspaces ++ [(keyspace, [])]⟩ : Store).keyspace? other = s.keyspace? other :=
  look_append_of_ne h s.keyspaces []

theorem keyspace?_erase_of_ne :
    (⟨erase keyspace s.keyspaces⟩ : Store).keyspace? other = s.keyspace? other :=
  look_erase_of_ne h s.keyspaces

end Others

theorem table?_of_keyspace? {s : Store} {keyspace : String} {tables : StoredKeyspace}
    (h : s.keyspace? keyspace = some tables) (table : String) :
    s.table? keyspace table = look table tables := by
  simp [table?, h]

theorem splitName_point {front : List Char} (h : '.' ∉ front) (back : List Char) :
    splitName (String.ofList (front ++ '.' :: back)) =
      (String.ofList front, String.ofList back) := by
  have htake : (front ++ '.' :: back).takeWhile (· != '.') = front := by
    rw [List.takeWhile_append_of_pos]
    · simp
    · intro c hc
      have hne : c ≠ '.' := fun heq => h (heq ▸ hc)
      simpa using hne
  simp [splitName, htake]

end Store

namespace Name

/-- A name is made of lowercase letters, digits and underscores. -/
theorem isLowerTail_of_mem {kind : NameKind} (name : Name kind) {c : Char}
    (h : c ∈ name.text.toList) : isLowerTail c = true := by
  have hform := name.wellFormed
  rcases hname : name.text.toList with _ | ⟨first, rest⟩
  · simp [hname] at h
  · simp only [hname, WellFormed, Bool.and_eq_true, List.all_eq_true] at hform
    rw [hname, List.mem_cons] at h
    rcases h with rfl | h
    · simp [isLowerTail, hform.1.1]
    · exact hform.1.2 c h

theorem not_mem_of_not_isLowerTail {kind : NameKind} (name : Name kind) {c : Char}
    (h : isLowerTail c = false) : c ∉ name.text.toList := by
  intro hmem
  rw [name.isLowerTail_of_mem hmem] at h
  cases h

end Name

namespace Ledger

variable (l : Ledger) (s : Store)

theorem splitName_qualified : Store.splitName l.qualified = (l.keyspace.text, l.table.text) := by
  have hpoint : '.' ∉ l.keyspace.text.toList :=
    l.keyspace.not_mem_of_not_isLowerTail (by decide)
  have hname : l.qualified =
      String.ofList (l.keyspace.text.toList ++ '.' :: l.table.text.toList) := by
    apply String.toList_inj.mp
    simp [qualified]
  rw [hname, Store.splitName_point hpoint]
  simp

/-- The tables of the ledger's keyspace, if the keyspace exists. -/
def tables? : Option StoredKeyspace :=
  s.keyspace? l.keyspace.text

/-- The table that the ledger names, if it exists. -/
def stored? : Option StoredTable :=
  s.table? l.keyspace.text l.table.text

/-- The ledger is there, and so its keyspace. -/
def Present : Prop :=
  ∃ t, l.stored? s = some t

/-- Whether the ledger has a column for checksums, if it is there at all. -/
def shape? : Option Bool :=
  (l.stored? s).map (·.hasChecksum)

/-- A table of this shape is there, and it has all columns that are read. -/
def Fits (shape : Option Bool) : Prop :=
  ∃ column, shape = some column ∧ (l.checksums = true → column = true)

/-- The ledger is there, with all columns that are read. -/
def Readable : Prop :=
  l.Fits (l.shape? s)

/-- The keyspace is absent, or it has its ledger. -/
def Standing : Prop :=
  l.tables? s = none ∨ l.Present s

/-- The rows of the ledger, oldest first; none if there is no ledger. -/
def storedRows : List StoredRow :=
  ((l.stored? s).map (·.rows)).getD []

/-- The row of a script: its version, its name and, in a ledger with checksums, its checksum. -/
def storedRow (script : Script) : StoredRow where
  version := script.version
  name := script.name
  checksum := if l.checksums then some script.checksum else none

variable {l s}

theorem stored?_of_tables? {tables : StoredKeyspace} (h : l.tables? s = some tables) :
    l.stored? s = Store.look l.table.text tables :=
  Store.table?_of_keyspace? h l.table.text

theorem stored?_of_tables?_none (h : l.tables? s = none) : l.stored? s = none := by
  have hnone : s.keyspace? l.keyspace.text = none := h
  simp [stored?, Store.table?, hnone]

theorem present_iff_shape? : l.Present s ↔ (l.shape? s).isSome = true := by
  rw [shape?, Option.isSome_map, Option.isSome_iff_exists]
  rfl

theorem Readable.present (h : l.Readable s) : l.Present s := by
  obtain ⟨column, hshape, -⟩ := h
  rw [present_iff_shape?, hshape]
  rfl

theorem Present.tables_ne_nil (h : l.Present s) : (l.tables? s).getD [] ≠ [] := by
  obtain ⟨t, hstored⟩ := h
  rcases htables : l.tables? s with _ | tables
  · rw [stored?_of_tables?_none htables] at hstored
    cases hstored
  · rw [stored?_of_tables? htables] at hstored
    rintro rfl
    simp [Store.look] at hstored

/-- A keyspace without tables is neither. -/
theorem Standing.tables?_ne (h : l.Standing s) : l.tables? s ≠ some [] := by
  intro hbare
  rcases h with habsent | hpresent
  · cases habsent.symm.trans hbare
  · exact hpresent.tables_ne_nil (by rw [hbare]; rfl)

theorem storedRows_of_none (h : l.stored? s = none) : l.storedRows s = [] := by
  simp [storedRows, h]

theorem storedRows_of_stored? {t : StoredTable} (h : l.stored? s = some t) :
    l.storedRows s = t.rows := by
  simp [storedRows, h]

end Ledger

end SchemaMigration
