import SchemaMigration.Text.Numeral

/-!
# Replication of a keyspace

How many copies a keyspace keeps of its data: one factor for all nodes, or one for each datacenter.

* `Datacenters` maps names to factors, in the order of the names.
* `Replication.fault?` is the first rule that a setting breaks.
-/

namespace SchemaMigration

/-- Replication factors by datacenter, each name once and in ascending order. -/
structure Datacenters where
  entries : List (String × UInt8)
  ordered : entries.Pairwise fun a b => a.1 < b.1

namespace Datacenters

instance : DecidableEq Datacenters := fun a b =>
  if h : a.entries = b.entries then
    .isTrue (by cases a; cases b; cases h; rfl)
  else .isFalse fun e => h (by rw [e])

/-- No datacenters. -/
def empty : Datacenters := ⟨[], .nil⟩

/-- A name's factor set in an ascending list. -/
def insertInto (name : String) (factor : UInt8) : List (String × UInt8) → List (String × UInt8)
  | [] => [(name, factor)]
  | entry :: rest =>
    if name < entry.1 then (name, factor) :: entry :: rest
    else if entry.1 < name then entry :: insertInto name factor rest
    else (name, factor) :: rest

theorem mem_insertInto {name : String} {factor : UInt8} {list : List (String × UInt8)}
    {e : String × UInt8} (h : e ∈ insertInto name factor list) : e = (name, factor) ∨ e ∈ list := by
  induction list with
  | nil => simpa [insertInto] using h
  | cons entry rest ih =>
    simp only [insertInto] at h
    split at h
    · simpa using h
    · split at h
      · rcases List.mem_cons.1 h with h | h
        · exact .inr (by simp [h])
        · rcases ih h with h | h
          · exact .inl h
          · exact .inr (by simp [h])
      · rcases List.mem_cons.1 h with h | h
        · exact .inl h
        · exact .inr (by simp [h])

theorem pairwise_insertInto {name : String} {factor : UInt8} {list : List (String × UInt8)}
    (h : list.Pairwise fun a b => a.1 < b.1) :
    (insertInto name factor list).Pairwise fun a b => a.1 < b.1 := by
  induction list with
  | nil => simp [insertInto]
  | cons entry rest ih =>
    obtain ⟨hentry, hrest⟩ := List.pairwise_cons.1 h
    simp only [insertInto]
    split
    · next hlt =>
      refine List.pairwise_cons.2 ⟨fun e he => ?_, h⟩
      rcases List.mem_cons.1 he with he | he
      · simpa [he] using hlt
      · exact String.lt_trans hlt (hentry e he)
    · next hnlt =>
      split
      · next hgt =>
        refine List.pairwise_cons.2 ⟨fun e he => ?_, ih hrest⟩
        rcases mem_insertInto he with he | he
        · simpa [he] using hgt
        · exact hentry e he
      · next hngt =>
        have heq : name = entry.1 :=
          String.le_antisymm (String.not_lt.1 hngt) (String.not_lt.1 hnlt)
        exact List.pairwise_cons.2 ⟨fun e he => by simpa [heq] using hentry e he, hrest⟩

/-- The map with a name's factor set. -/
def insert (name : String) (factor : UInt8) (dcs : Datacenters) : Datacenters :=
  ⟨insertInto name factor dcs.entries, pairwise_insertInto dcs.ordered⟩

/-- The map with the given entries; of two for one name the later one counts. -/
def ofList (entries : List (String × UInt8)) : Datacenters :=
  entries.foldl (fun dcs e => dcs.insert e.1 e.2) empty

end Datacenters

/-- How a keyspace is replicated. -/
inductive Replication where
  | simple (factor : UInt8)
  | perDatacenter (datacenters : Datacenters)
  deriving DecidableEq

namespace Replication

/-- The setting for a single node. -/
def standard : Replication := .simple 1

/-- Whether a character may stand in the name of a datacenter. -/
def isNameChar (c : Char) : Bool :=
  ('a' ≤ c && c ≤ 'z') || ('A' ≤ c && c ≤ 'Z') || Text.isDigit c || c == '_' || c == '-' || c == '.'

/-- Whether a text may name a datacenter. -/
def isName (name : String) : Bool :=
  name ≠ "" && name.toList.all isNameChar

/-- A rule that a setting breaks. -/
inductive Fault where
  | zeroFactor
  | noDatacenter
  | badName (datacenter : String)
  | zeroDatacenterFactor (datacenter : String)
  deriving DecidableEq, Repr

/-- A fault in words. -/
def Fault.message : Fault → String
  | .zeroFactor => "replication_factor must be positive"
  | .noDatacenter => "NetworkTopologyStrategy needs at least one datacenter"
  | .badName dc => "invalid datacenter name '" ++ dc ++ "'"
  | .zeroDatacenterFactor dc => "replication factor for datacenter " ++ dc ++ " must be positive"

/-- The rule that a datacenter's entry breaks, if any. -/
def entryFault? (entry : String × UInt8) : Option Fault :=
  if !isName entry.1 then some (.badName entry.1)
  else if entry.2 = 0 then some (.zeroDatacenterFactor entry.1)
  else none

/-- The first rule that a setting breaks, if any. -/
def fault? : Replication → Option Fault
  | .simple factor => if factor = 0 then some .zeroFactor else none
  | .perDatacenter dcs =>
    if dcs.entries.isEmpty then some .noDatacenter else dcs.entries.findSome? entryFault?

end Replication

end SchemaMigration
