import SchemaMigration.Config.Document
import SchemaMigration.Proofs.Yaml.Blank

/-!
# Keys that are not known

A configuration file may only have the keys that there are. The mapping of a replication is read in
another way than the others: as values of any kind first, of which the ones with the right keys are
picked out afterwards.

* `Aliases.Names`, `Aliases.Unknown`: keys as names, and keys that are no known names.
* `Refused`: a key that a document may not have.
* `not_refused_of_ofNode`: a document that is a layer has none.
* `Neglected`: an entry of a replication that has no meaning.
* `readReplication_neglected`: such an entry makes no difference.
* `Layer.unknown_keys`: both, for the texts of documents.
-/

namespace SchemaMigration

namespace Document

open Yaml (Node)

/-! ## Readings -/

namespace Reading

variable {α β : Type} {count : Nat}

theorem bind_eq_ok_iff {x : Reading α} {f : α → Reading β} {result : β × Nat} :
    (x >>= f) count = .ok result ↔ ∃ a next, x count = .ok (a, next) ∧ f a next = .ok result := by
  change (x count >>= fun p => f p.1 p.2) = _ ↔ _
  rcases x count with error | ⟨a, next⟩
  · simp [bind, Except.bind]
  · simp [bind, Except.bind]

theorem at_eq_ok_iff {path : String} {reading : Reading α} {result : α × Nat} :
    at_ path reading count = .ok result ↔ reading count = .ok result := by
  unfold at_
  split
  · next h => simp [h]
  · next h => simp [h]

end Reading

open Reading

/-! ## Keys -/

namespace Aliases

variable (aliases : Aliases)

/-- The node that an alias stands for; any other node is itself. -/
def behind : Node → Node
  | .aliasTo number =>
    ((aliases.nodes.reverse.find? fun entry => entry.1 == number).map (·.2)).getD Node.blank
  | node => node

/-- A key that is a name. -/
def Names (key : Node) (name : String) : Prop :=
  ∃ anchor tag plain literal, aliases.behind key = .scalar anchor tag plain literal name

/-- A key that is none of the known names. -/
def Unknown (known : List String) (key : Node) : Prop :=
  ∀ name ∈ known, ¬aliases.Names key name

/-- A key that is a scalar with a meaning. -/
def Means (key : Node) (meaning : Yaml.Meaning) : Prop :=
  ∃ anchor tag plain literal text, aliases.behind key = .scalar anchor tag plain literal text ∧
    hasLocalTag tag = false ∧ scalarMeaning tag plain text = .ok meaning

/-- A key that an entry of a replication may have: a word, or the number of a place. -/
def Placed (key : Node) : Prop :=
  (∃ name, aliases.Means key (.text name)) ∨ ∃ n : Nat, aliases.Means key (.int n)

variable {aliases}

theorem behind_of_follow {node found : Node} {count next : Nat}
    (h : follow aliases node count = .ok (found, next)) : found = aliases.behind node := by
  unfold follow at h
  split at h
  · next number =>
    split at h
    · cases h
    · split at h
      · next hfind =>
        cases h
        simp [behind, hfind]
      · next hfind =>
        cases h
        simp [behind, hfind]
  · next hnode =>
    cases h
    cases node with
    | aliasTo number => exact absurd rfl (hnode number)
    | _ => rfl

theorem Names.unique {key : Node} {name other : String} (h : aliases.Names key name)
    (hother : aliases.Names key other) : name = other := by
  obtain ⟨anchor, tag, plain, literal, hkey⟩ := h
  obtain ⟨anchor', tag', plain', literal', hkey'⟩ := hother
  rw [hkey] at hkey'
  cases hkey'
  rfl

end Aliases

variable {aliases : Aliases} {count : Nat}

theorem names_of_readText {expected path name : String} {key : Node} {next : Nat}
    (h : readText aliases expected path key count = .ok (name, next)) : aliases.Names key name := by
  rw [readText, at_eq_ok_iff, bind_eq_ok_iff] at h
  obtain ⟨found, followed, hfollow, hread⟩ := h
  have hbehind := Aliases.behind_of_follow hfollow
  split at hread
  · next anchor tag plain literal text =>
    cases hread
    exact ⟨anchor, tag, plain, literal, hbehind.symm⟩
  · cases hread

/-! ## Mappings with known keys -/

section Records

variable {α : Type} {known : List String} {path : String}
  {readEntry : String → String → Node → α → Reading α}

/-- The entries have known keys, and their values can be read. -/
def Recorded (aliases : Aliases) (known : List String) (path : String)
    (readEntry : String → String → Node → α → Reading α) (entries : List (Node × Node)) : Prop :=
  ∀ entry ∈ entries, ∃ name ∈ known, aliases.Names entry.1 name ∧ ∃ value count result,
    readEntry name (entryPath path entry.1) entry.2 value count = .ok result

theorem recorded_of_readEntries {seen : List String} {value result : α}
    {entries : List (Node × Node)} {next : Nat}
    (h : readEntries aliases known path readEntry seen value entries count = .ok (result, next)) :
    Recorded aliases known path readEntry entries := by
  -- the keys seen so far and what they have been read into change from entry to entry
  induction entries generalizing seen value count with
  | nil => exact nofun
  | cons entry entries ih =>
    rw [readEntries, bind_eq_ok_iff] at h
    obtain ⟨name, named, hname, h⟩ := h
    split at h
    · rw [at_eq_ok_iff] at h
      cases h
    · next hunknown =>
      have hknown : name ∈ known := by simpa using hunknown
      split at h
      · cases h
      · obtain ⟨value', read, hvalue, hrest⟩ := bind_eq_ok_iff.mp h
        exact List.forall_mem_cons.mpr
          ⟨⟨name, hknown, names_of_readText hname, value, named, _, hvalue⟩, ih hrest⟩

/-- A mapping that has been read has no other keys than those known. -/
theorem recorded_of_readRecord {expected : String} {start result : α} {node : Node} {next : Nat}
    {anchor : Option Nat} {tag : Option String} {entries : List (Node × Node)}
    (hnode : aliases.behind node = .mapping anchor tag entries)
    (h : readRecord aliases known expected path start readEntry node count = .ok (result, next)) :
    Recorded aliases known path readEntry entries := by
  rw [readRecord, at_eq_ok_iff, bind_eq_ok_iff] at h
  obtain ⟨found, followed, hfollow, hread⟩ := h
  rw [Aliases.behind_of_follow hfollow, hnode] at hread
  exact recorded_of_readEntries hread

end Records

/-- What may be left out is read where it stands, if it is a mapping. -/
theorem of_readOptional {α : Type} {read : Node → Reading α} {node : Node} {value : Option α}
    {next : Nat} {anchor : Option Nat} {tag : Option String} {entries : List (Node × Node)}
    (hnode : aliases.behind node = .mapping anchor tag entries)
    (h : readOptional aliases read node count = .ok (value, next)) :
    ∃ count result, read (.mapping anchor tag entries) count = .ok result := by
  rw [readOptional, bind_eq_ok_iff] at h
  obtain ⟨found, followed, hfollow, hread⟩ := h
  rw [Aliases.behind_of_follow hfollow, hnode, bind_eq_ok_iff] at hread
  obtain ⟨a, after, hread, -⟩ := hread
  exact ⟨followed, _, hread⟩

/-! ## Replication -/

theorem of_readMeaning {expected : String} {tag : Option String} {plain : Bool} {text : String}
    {name : Loose} {next : Nat}
    (h : readMeaning expected tag plain text count = .ok (name, next)) :
    ∃ meaning, name = .meaning meaning ∧ scalarMeaning tag plain text = .ok meaning := by
  unfold readMeaning at h
  rcases hmeaning : scalarMeaning tag plain text with fault | meaning
  · rw [hmeaning] at h
    cases h
  · rw [hmeaning] at h
    cases meaning with
    | bigInt n => cases h
    | _ =>
      cases h
      exact ⟨_, rfl, rfl⟩

/-- A value of any kind that is read from a key is a scalar with a meaning, or a collection. -/
theorem of_readLoose {depth : Nat} {expected path : String} {key : Node} {name : Loose} {next : Nat}
    (h : readLoose aliases depth expected path key count = .ok (name, next)) :
    (∃ meaning, name = .meaning meaning ∧ aliases.Means key meaning) ∨
      (∃ items, name = .list items) ∨ ∃ entries, name = .map entries := by
  unfold readLoose at h
  rw [at_eq_ok_iff, bind_eq_ok_iff] at h
  obtain ⟨found, followed, hfollow, hread⟩ := h
  have hbehind := Aliases.behind_of_follow hfollow
  split at hread
  · next anchor tag plain literal text =>
    split at hread
    · cases hread
    · next htag =>
      obtain ⟨meaning, hname, hmeaning⟩ := of_readMeaning hread
      exact .inl ⟨meaning, hname, anchor, tag, plain, literal, text, hbehind.symm,
        Bool.eq_false_iff.mpr htag, hmeaning⟩
  · split at hread
    · cases hread
    · split at hread
      · cases hread
      · obtain ⟨items, after, -, hname⟩ := bind_eq_ok_iff.mp hread
        cases hname
        exact .inr (.inl ⟨items, rfl⟩)
  · split at hread
    · cases hread
    · split at hread
      · cases hread
      · obtain ⟨entries, after, -, hname⟩ := bind_eq_ok_iff.mp hread
        cases hname
        exact .inr (.inr ⟨entries, rfl⟩)
  · cases hread

section Splitting

variable (aliases : Aliases) (depth : Nat) (path : String)

/-- The entries of a replication, split into the strategy and the others. -/
inductive Splits : Option Strategy → Nat → List (Node × Node) → Option Strategy →
    List (Loose × Loose) → Nat → Prop
  | nil {strategy : Option Strategy} {count : Nat} : Splits strategy count [] strategy [] count
  | strategy {count named read next : Nat} {entry : Node × Node} {entries : List (Node × Node)}
      {name : Loose} {first : Strategy} {found : Option Strategy} {others : List (Loose × Loose)}
      (hkey : readLoose aliases depth strategyKeyKind path entry.1 count = .ok (name, named))
      (hname : isStrategyKey name = true)
      (hfirst : readStrategy aliases (entryPath path entry.1) entry.2 named = .ok (first, read))
      (hrest : Splits (some first) read entries found others next) :
      Splits none count (entry :: entries) found others next
  | other {count named read next : Nat} {entry : Node × Node} {entries : List (Node × Node)}
      {name value : Loose} {strategy found : Option Strategy} {others : List (Loose × Loose)}
      (hkey : readLoose aliases depth strategyKeyKind path entry.1 count = .ok (name, named))
      (hname : isStrategyKey name = false)
      (hvalue : readLoose aliases depth anyValue (entryPath path entry.1) entry.2 named =
        .ok (value, read))
      (hrest : Splits strategy read entries found others next) :
      Splits strategy count (entry :: entries) found ((name, value) :: others) next

variable {aliases depth path} {strategy found : Option Strategy}
  {entries front back : List (Node × Node)} {others : List (Loose × Loose)} {next : Nat}

theorem splits_of_read (h : readStrategyEntries aliases depth path strategy entries count =
    .ok ((found, others), next)) :
    Splits aliases depth path strategy count entries found others next := by
  induction entries generalizing strategy count others with
  | nil =>
    cases h
    exact .nil
  | cons entry entries ih =>
    rw [readStrategyEntries, bind_eq_ok_iff] at h
    obtain ⟨name, named, hkey, h⟩ := h
    split at h
    · next hname =>
      rcases strategy with _ | strategy
      · obtain ⟨first, read, hfirst, hrest⟩ := bind_eq_ok_iff.mp h
        exact .strategy hkey hname hfirst (ih hrest)
      · cases h
    · next hname =>
      obtain ⟨value, read, hvalue, h⟩ := bind_eq_ok_iff.mp h
      obtain ⟨⟨found', rest⟩, last, hrest, hresult⟩ := bind_eq_ok_iff.mp h
      cases hresult
      exact .other hkey (Bool.eq_false_iff.mpr hname) hvalue (ih hrest)

theorem Splits.read (h : Splits aliases depth path strategy count entries found others next) :
    readStrategyEntries aliases depth path strategy entries count =
      .ok ((found, others), next) := by
  induction h with
  | nil => rfl
  | strategy hkey hname hfirst hrest ih =>
    rw [readStrategyEntries, bind_eq_ok_iff]
    refine ⟨_, _, hkey, ?_⟩
    rw [if_pos hname]
    exact bind_eq_ok_iff.mpr ⟨_, _, hfirst, ih⟩
  | other hkey hname hvalue hrest ih =>
    rw [readStrategyEntries, bind_eq_ok_iff]
    refine ⟨_, _, hkey, ?_⟩
    rw [if_neg (by rw [hname]; exact Bool.false_ne_true)]
    exact bind_eq_ok_iff.mpr ⟨_, _, hvalue, bind_eq_ok_iff.mpr ⟨_, _, ih, rfl⟩⟩

/-- Every key is that of the strategy, or it is among the others. -/
theorem Splits.forall_mem (h : Splits aliases depth path strategy count entries found others next) :
    ∀ entry ∈ entries, ∃ name count next,
      readLoose aliases depth strategyKeyKind path entry.1 count = .ok (name, next) ∧
        (isStrategyKey name = true ∨ ∃ value, (name, value) ∈ others) := by
  induction h with
  | nil => exact nofun
  | strategy hkey hname hfirst hrest ih =>
    exact List.forall_mem_cons.mpr ⟨⟨_, _, _, hkey, .inl hname⟩, ih⟩
  | other hkey hname hvalue hrest ih =>
    refine List.forall_mem_cons.mpr ⟨⟨_, _, _, hkey, .inr ⟨_, List.mem_cons_self⟩⟩, ?_⟩
    intro entry hentry
    obtain ⟨name, start, stop, hread, hplace⟩ := ih entry hentry
    exact ⟨name, start, stop, hread, hplace.imp_right fun ⟨value, hmem⟩ =>
      ⟨value, List.mem_cons_of_mem _ hmem⟩⟩

/-- The entries are split from front to back. -/
theorem Splits.append {middle : Option Strategy} {before after : List (Loose × Loose)} {read : Nat}
    (hfront : Splits aliases depth path strategy count front middle before read)
    (hback : Splits aliases depth path middle read back found after next) :
    Splits aliases depth path strategy count (front ++ back) found (before ++ after) next := by
  induction hfront with
  | nil => exact hback
  | strategy hkey hname hfirst hrest ih => exact .strategy hkey hname hfirst (ih hback)
  | other hkey hname hvalue hrest ih => exact .other hkey hname hvalue (ih hback)

theorem Splits.exists_append
    (h : Splits aliases depth path strategy count (front ++ back) found others next) :
    ∃ middle before after read, Splits aliases depth path strategy count front middle before read ∧
      Splits aliases depth path middle read back found after next ∧ others = before ++ after := by
  induction front generalizing strategy count others with
  | nil => exact ⟨strategy, [], others, count, .nil, h, rfl⟩
  | cons entry front ih =>
    cases h with
    | strategy hkey hname hfirst hrest =>
      obtain ⟨middle, before, after, read, hfront, hback, rfl⟩ := ih hrest
      exact ⟨middle, before, after, read, .strategy hkey hname hfirst hfront, hback, rfl⟩
    | other hkey hname hvalue hrest =>
      obtain ⟨middle, before, after, read, hfront, hback, rfl⟩ := ih hrest
      exact ⟨middle, _ :: before, after, read, .other hkey hname hvalue hfront, hback, rfl⟩

end Splitting

theorem settled_eq_ok_iff {α : Type} {x : Except ValueFault α} {result : α} {next : Nat} :
    settled x count = .ok (result, next) ↔ x = .ok result ∧ next = count := by
  constructor
  · intro h
    rcases x with fault | value
    · cases h
    · cases h
      exact ⟨rfl, rfl⟩
  · rintro ⟨rfl, rfl⟩
    rfl

/-- A replication is read from a mapping in two steps: the strategy first, and then its setting. -/
theorem readReplication_mapping_iff {depth : Nat} {path : String} {anchor : Option Nat}
    {tag : Option String} {entries : List (Node × Node)} {setting : Replication} {next : Nat} :
    readReplication aliases depth path (.mapping anchor tag entries) count = .ok (setting, next) ↔
      hasLocalTag tag = false ∧ ∃ strategy others,
        Splits aliases depth path none count entries (some strategy) others next ∧
          looseEntries strategy none others = .ok setting := by
  have hfollow : ∀ (f : Node → Reading (Except ValueFault Replication)),
      (follow aliases (.mapping anchor tag entries) >>= f) count =
        f (.mapping anchor tag entries) count := fun _ => rfl
  simp only [readReplication, bind_eq_ok_iff, readReplicationParts, at_eq_ok_iff, hfollow,
    settled_eq_ok_iff]
  rcases htag : hasLocalTag tag with _ | _
  · simp only [Bool.false_eq_true, if_false, bind_eq_ok_iff]
    constructor
    · rintro ⟨result, after, ⟨⟨strategy?, others⟩, read, hentries, hresult⟩, rfl, rfl⟩
      refine ⟨trivial, ?_⟩
      rcases strategy? with _ | strategy
      · cases hresult
      · obtain ⟨hsetting, rfl⟩ := Prod.mk.inj (Except.ok.inj hresult)
        exact ⟨strategy, others, splits_of_read hentries, hsetting⟩
    · rintro ⟨-, strategy, others, hentries, hsetting⟩
      exact ⟨.ok setting, next, ⟨(some strategy, others), next, hentries.read,
        congrArg (fun x => Except.ok (x, next)) hsetting⟩, rfl, rfl⟩
  · simp [fail]

section Settings

variable {strategy : Strategy} {setting? : Option Replication} {key value : Loose}
  {others : List (Loose × Loose)} {setting : Replication}

theorem looseEntries_cons_other (h : isSettingKey strategy key = .ok false) :
    looseEntries strategy setting? ((key, value) :: others) =
      looseEntries strategy setting? others := by
  rw [looseEntries, h]
  rfl

theorem looseEntries_cons_setting (h : isSettingKey strategy key = .ok true) :
    looseEntries strategy setting? ((key, value) :: others) =
      if setting?.isSome then .error (.repeatedKey strategy.key)
      else looseSetting strategy value >>= fun setting =>
        looseEntries strategy (some setting) others := by
  rw [looseEntries, h]
  rfl

/-- A first entry is passed over, or it is the setting. -/
theorem of_looseEntries_cons (h : looseEntries strategy setting? ((key, value) :: others) =
    .ok setting) :
    isSettingKey strategy key = .ok false ∧ looseEntries strategy setting? others = .ok setting ∨
      isSettingKey strategy key = .ok true ∧ ∃ found, looseSetting strategy value = .ok found ∧
        looseEntries strategy (some found) others = .ok setting := by
  rcases hkey : isSettingKey strategy key with fault | _ | _
  · rw [looseEntries, hkey] at h
    cases h
  · rw [looseEntries_cons_other hkey] at h
    exact .inl ⟨rfl, h⟩
  · rw [looseEntries_cons_setting hkey] at h
    split at h
    · cases h
    · rcases hsetting : looseSetting strategy value with fault | found
      · rw [hsetting] at h
        cases h
      · rw [hsetting] at h
        exact .inr ⟨rfl, found, rfl, h⟩

/-- Each of the other keys is compared with that of the setting. -/
theorem of_looseEntries (h : looseEntries strategy setting? others = .ok setting) :
    ∀ entry ∈ others, ∃ b, isSettingKey strategy entry.1 = .ok b := by
  induction others generalizing setting? with
  | nil => exact nofun
  | cons entry others ih =>
    rw [List.forall_mem_cons]
    rcases of_looseEntries_cons h with ⟨hkey, hrest⟩ | ⟨hkey, found, -, hrest⟩
    · exact ⟨⟨false, hkey⟩, ih hrest⟩
    · exact ⟨⟨true, hkey⟩, ih hrest⟩

end Settings

/-- A key that can be compared with that of a setting is a word or the number of a place. -/
theorem placed_of_isSettingKey {depth : Nat} {expected path : String} {key : Node} {name : Loose}
    {next : Nat} {strategy : Strategy} {b : Bool}
    (hread : readLoose aliases depth expected path key count = .ok (name, next))
    (hkey : isSettingKey strategy name = .ok b) : aliases.Placed key := by
  rcases of_readLoose hread with ⟨meaning, rfl, hmeans⟩ | ⟨items, rfl⟩ | ⟨entries, rfl⟩
  · cases meaning with
    | text name => exact .inl ⟨name, hmeans⟩
    | int n =>
      unfold isSettingKey at hkey
      dsimp only at hkey
      split at hkey
      · next hn =>
        obtain ⟨m, rfl⟩ := Int.eq_ofNat_of_zero_le hn
        exact .inr ⟨m, hmeans⟩
      · cases hkey
    | _ => cases hkey
  · cases hkey
  · cases hkey

/-- A replication that is read has no other keys. -/
theorem placed_of_readReplication {depth : Nat} {path : String} {anchor : Option Nat}
    {tag : Option String} {entries : List (Node × Node)} {result : Replication × Nat}
    (h : readReplication aliases depth path (.mapping anchor tag entries) count = .ok result) :
    ∀ entry ∈ entries, aliases.Placed entry.1 := by
  obtain ⟨setting, next⟩ := result
  obtain ⟨-, strategy, others, hentries, hsetting⟩ := readReplication_mapping_iff.mp h
  intro entry hentry
  obtain ⟨name, start, stop, hread, hstrategy | ⟨value, hmem⟩⟩ :=
    hentries.forall_mem entry hentry
  · rcases of_readLoose hread with ⟨meaning, rfl, hmeans⟩ | ⟨items, rfl⟩ | ⟨entries, rfl⟩
    · cases meaning with
      | text name => exact .inl ⟨name, hmeans⟩
      | _ => cases hstrategy
    · cases hstrategy
    · cases hstrategy
  · obtain ⟨b, hkey⟩ := of_looseEntries hsetting _ hmem
    exact placed_of_isSettingKey hread hkey

/-! ## Entries without a meaning -/

/-- The strategy of a replication. -/
def strategyOf : Replication → Strategy
  | .simple _ => .simple
  | .perDatacenter _ => .networkTopology

/-- An entry of a replication that says nothing about it: the key is another word than those for the
strategy and for its setting, or the number of another place, and the value can be read. -/
structure Neglected (aliases : Aliases) (depth : Nat) (path : String) (setting : Replication)
    (key value : Node) : Prop where
  direct : ∀ number, key ≠ .aliasTo number
  other : (∃ name, aliases.Means key (.text name) ∧ name ≠ strategyKey ∧
    name ≠ (strategyOf setting).key) ∨ ∃ n : Nat, aliases.Means key (.int (n + 1))
  readable : ∃ read, ∀ count,
    readLoose aliases depth anyValue (entryPath path key) value count = .ok (read, count)

section Neglect

variable {depth : Nat} {path : String}

/-- A scalar with a meaning is read as that. -/
theorem readLoose_of_means {expected : String} {key : Node} {meaning : Yaml.Meaning}
    (hdirect : ∀ number, key ≠ .aliasTo number) (hmeans : aliases.Means key meaning)
    (hsmall : ∀ n, meaning ≠ .bigInt n) (count : Nat) :
    readLoose aliases depth expected path key count = .ok (.meaning meaning, count) := by
  obtain ⟨anchor, tag, plain, literal, text, hbehind, htag, hmeaning⟩ := hmeans
  cases key with
  | aliasTo number => exact absurd rfl (hdirect number)
  | scalar anchor tag plain literal text =>
    cases hbehind
    unfold readLoose
    rw [at_eq_ok_iff]
    have hread : readMeaning expected tag plain text count = .ok (.meaning meaning, count) := by
      unfold readMeaning
      rw [hmeaning]
      cases meaning with
      | bigInt n => exact absurd rfl (hsmall n)
      | _ => rfl
    refine bind_eq_ok_iff.mpr ⟨_, count, rfl, ?_⟩
    simp only [htag, Bool.false_eq_true, if_false]
    exact hread
  | sequence anchor tag items => cases hbehind
  | mapping anchor tag entries => cases hbehind

/-- The key of such an entry is read as one that is passed over. -/
theorem Neglected.exists_key {setting : Replication} {key value : Node}
    (h : Neglected aliases depth path setting key value) :
    ∃ name, (∀ count, readLoose aliases depth strategyKeyKind path key count = .ok (name, count)) ∧
      isStrategyKey name = false ∧ isSettingKey (strategyOf setting) name = .ok false := by
  rcases h.other with ⟨name, hmeans, hclass, hsetting⟩ | ⟨n, hmeans⟩
  · refine ⟨_, readLoose_of_means h.direct hmeans nofun, ?_, ?_⟩
    · simpa [isStrategyKey] using hclass
    · simpa [isSettingKey] using hsetting
  · refine ⟨_, readLoose_of_means h.direct hmeans nofun, rfl, ?_⟩
    have hpositive : (0 : Int) ≤ n + 1 := by omega
    have hne : ((n : Int) + 1 == 0) = false := by simpa using (by omega : (n : Int) + 1 ≠ 0)
    simp [isSettingKey, hpositive, hne]

/-- Such an entry is one of the others. -/
theorem Splits.of_cons_other {key value : Node} {name read : Loose}
    (hkey : ∀ count, readLoose aliases depth strategyKeyKind path key count = .ok (name, count))
    (hname : isStrategyKey name = false)
    (hvalue : ∀ count,
      readLoose aliases depth anyValue (entryPath path key) value count = .ok (read, count))
    {strategy found : Option Strategy} {entries : List (Node × Node)}
    {others : List (Loose × Loose)} {next : Nat}
    (h : Splits aliases depth path strategy count ((key, value) :: entries) found others next) :
    ∃ rest, Splits aliases depth path strategy count entries found rest next ∧
      others = (name, read) :: rest := by
  cases h with
  | strategy hkey' hname' hfirst hrest =>
    cases (hkey count).symm.trans hkey'
    rw [hname] at hname'
    cases hname'
  | other hkey' hname' hvalue' hrest =>
    cases (hkey count).symm.trans hkey'
    cases (hvalue count).symm.trans hvalue'
    exact ⟨_, hrest, rfl⟩

/-- An entry with another key than the setting's makes no difference. -/
theorem looseEntries_insert_other {strategy : Strategy} {name read : Loose}
    (hname : isSettingKey strategy name = .ok false) (setting? : Option Replication)
    (before after : List (Loose × Loose)) :
    looseEntries strategy setting? (before ++ (name, read) :: after) =
      looseEntries strategy setting? (before ++ after) := by
  induction before generalizing setting? with
  | nil => exact looseEntries_cons_other hname
  | cons entry before ih =>
    obtain ⟨key, value⟩ := entry
    rw [List.cons_append, List.cons_append]
    rcases hkey : isSettingKey strategy key with fault | _ | _
    · rw [looseEntries, looseEntries, hkey]
      rfl
    · rw [looseEntries_cons_other hkey, looseEntries_cons_other hkey, ih]
    · simp only [looseEntries_cons_setting hkey, ih]

theorem strategyOf_looseSetting {strategy : Strategy} {value : Loose} {setting : Replication}
    (h : looseSetting strategy value = .ok setting) : strategyOf setting = strategy := by
  unfold looseSetting at h
  cases strategy with
  | simple =>
    rcases hfactor : looseFactor value with fault | factor
    · rw [hfactor] at h
      cases h
    · rw [hfactor] at h
      cases h
      rfl
  | networkTopology =>
    cases value with
    | map entries =>
      rcases hfactors : looseFactors entries with fault | factors
      · simp only [hfactors] at h
        cases h
      · simp only [hfactors] at h
        cases h
        rfl
    | _ => cases h

/-- The setting is one of the strategy. -/
theorem strategyOf_looseEntries {strategy : Strategy} {setting? : Option Replication}
    (hstrategy : ∀ setting ∈ setting?, strategyOf setting = strategy)
    {others : List (Loose × Loose)} {setting : Replication}
    (h : looseEntries strategy setting? others = .ok setting) : strategyOf setting = strategy := by
  induction others generalizing setting? with
  | nil =>
    rcases setting? with _ | found
    · cases h
    · cases h
      exact hstrategy _ rfl
  | cons entry others ih =>
    rcases of_looseEntries_cons h with ⟨-, hrest⟩ | ⟨-, found, hsetting, hrest⟩
    · exact ih hstrategy hrest
    · refine ih (fun setting hmem => ?_) hrest
      cases hmem
      exact strategyOf_looseSetting hsetting

/-- **Keys that are passed over.** An entry that says nothing about a replication may stand anywhere
in its mapping: the replication is read from the mapping exactly if it is read without the entry. -/
theorem readReplication_neglected {anchor : Option Nat} {tag : Option String}
    {front back : List (Node × Node)} {key value : Node} {setting : Replication} {next : Nat}
    (h : Neglected aliases depth path setting key value) :
    readReplication aliases depth path (.mapping anchor tag (front ++ (key, value) :: back)) count =
        .ok (setting, next) ↔
      readReplication aliases depth path (.mapping anchor tag (front ++ back)) count =
        .ok (setting, next) := by
  obtain ⟨name, hkey, hclass, hother⟩ := h.exists_key
  obtain ⟨read, hvalue⟩ := h.readable
  rw [readReplication_mapping_iff, readReplication_mapping_iff]
  refine and_congr_right fun _ => exists_congr fun strategy => ?_
  constructor
  · rintro ⟨_, hsplits, hsetting⟩
    obtain ⟨middle, before, _, start, hfront, hcons, rfl⟩ := hsplits.exists_append
    obtain ⟨after, hback, rfl⟩ := hcons.of_cons_other hkey hclass hvalue
    -- the strategy that was found is that of the setting, and the entry has another key than its
    have hstrategy := strategyOf_looseEntries (by simp) hsetting
    rw [looseEntries_insert_other (hstrategy ▸ hother)] at hsetting
    exact ⟨_, hfront.append hback, hsetting⟩
  · rintro ⟨_, hsplits, hsetting⟩
    obtain ⟨middle, before, after, start, hfront, hback, rfl⟩ := hsplits.exists_append
    have hstrategy := strategyOf_looseEntries (by simp) hsetting
    rw [← looseEntries_insert_other (hstrategy ▸ hother)] at hsetting
    exact ⟨_, hfront.append (.other (hkey _) hclass (hvalue _) hback), hsetting⟩

end Neglect

/-! ## Documents -/

/-- What the aliases of a document stand for, and how many of them may be followed. -/
def aliasesOf (root : Node) : Aliases := ⟨root.anchored, aliasesPerEvent * root.size⟩

/-- A key that a document with these entries may not have: one that is not known, or one of a
replication that is neither a word nor the number of a place. -/
inductive Refused (aliases : Aliases) (entries : List (Node × Node)) : Prop where
  | layer {entry : Node × Node} (hentry : entry ∈ entries)
      (hunknown : aliases.Unknown layerKeys entry.1)
  | database {entry key : Node × Node} {anchor : Option Nat} {tag : Option String}
      {inner : List (Node × Node)} (hentry : entry ∈ entries)
      (hname : aliases.Names entry.1 "database")
      (hinner : aliases.behind entry.2 = .mapping anchor tag inner) (hkey : key ∈ inner)
      (hunknown : aliases.Unknown databaseKeys key.1)
  | replication {entry key : Node × Node} {anchor : Option Nat} {tag : Option String}
      {inner : List (Node × Node)} (hentry : entry ∈ entries)
      (hname : aliases.Names entry.1 "replication")
      (hinner : aliases.behind entry.2 = .mapping anchor tag inner) (hkey : key ∈ inner)
      (hplaced : ¬aliases.Placed key.1)

section Entries

variable {path : String} {node : Node} {layer : Layer} {result : Layer × Nat}

theorem of_readLayerEntry_database
    (h : readLayerEntry aliases "database" path node layer count = .ok result) :
    ∃ value, readOptional aliases (readDatabase aliases path) node count = .ok value := by
  have hread : (readOptional aliases (readDatabase aliases path) node >>= fun database =>
    pure { layer with database := database }) count = .ok result := h
  obtain ⟨value, next, hvalue, -⟩ := bind_eq_ok_iff.mp hread
  exact ⟨_, hvalue⟩

theorem of_readLayerEntry_replication
    (h : readLayerEntry aliases "replication" path node layer count = .ok result) :
    ∃ value, readOptional aliases (readReplication aliases (maxDepth - 2) path) node count =
      .ok value := by
  have hread : (readOptional aliases (readReplication aliases (maxDepth - 2) path) node >>=
    fun replication => pure { layer with replication := replication }) count = .ok result := h
  obtain ⟨value, next, hvalue, -⟩ := bind_eq_ok_iff.mp hread
  exact ⟨_, hvalue⟩

end Entries

/-- A document that is read as a layer has no key that it may not have. -/
theorem not_refused_of_ofNode {anchor : Option Nat} {tag : Option String}
    {entries : List (Node × Node)} {layer : Layer}
    (h : Layer.ofNode (.mapping anchor tag entries) = .ok layer) :
    ¬Refused (aliasesOf (.mapping anchor tag entries)) entries := by
  have hread : ∃ next, readLayer (.mapping anchor tag entries) 0 = .ok (layer, next) := by
    unfold Layer.ofNode StateT.run' at h
    rcases hlayer : readLayer (.mapping anchor tag entries) 0 with error | ⟨found, next⟩
    · rw [hlayer] at h
      cases h
    · rw [hlayer] at h
      cases h
      exact ⟨next, rfl⟩
  obtain ⟨next, hread⟩ := hread
  have hentries : Recorded (aliasesOf (.mapping anchor tag entries)) layerKeys ""
      (readLayerEntry (aliasesOf (.mapping anchor tag entries))) entries :=
    recorded_of_readRecord rfl hread
  intro hrefused
  -- one case for each mapping with keys of its own
  cases hrefused with
  | layer hentry hunknown =>
    obtain ⟨name, hknown, hname, -⟩ := hentries _ hentry
    exact hunknown name hknown hname
  | database hentry hname hinner hkey hunknown =>
    obtain ⟨name, -, hname', value, count, result, hvalue⟩ := hentries _ hentry
    rw [hname'.unique hname] at hvalue
    obtain ⟨⟨database, after⟩, hdatabase⟩ := of_readLayerEntry_database hvalue
    obtain ⟨count, ⟨found, last⟩, hfound⟩ := of_readOptional hinner hdatabase
    obtain ⟨name, hknown, hname, -⟩ := recorded_of_readRecord rfl hfound _ hkey
    exact hunknown name hknown hname
  | replication hentry hname hinner hkey hplaced =>
    obtain ⟨name, -, hname', value, count, result, hvalue⟩ := hentries _ hentry
    rw [hname'.unique hname] at hvalue
    obtain ⟨⟨replication, after⟩, hreplication⟩ := of_readLayerEntry_replication hvalue
    obtain ⟨count, result, hfound⟩ := of_readOptional hinner hreplication
    exact hplaced (placed_of_readReplication hfound _ hkey)

end Document

open Document

/-- A text that is a mapping is read as a document. -/
theorem Layer.ofYaml_eq {text : String} {anchor : Option Nat} {tag : Option String}
    {entries : List (Yaml.Node × Yaml.Node)}
    (h : Yaml.Stream.ofText? text = some (.document (.mapping anchor tag entries))) :
    Layer.ofYaml text = (Layer.ofNode (.mapping anchor tag entries)).mapError .value := by
  have hvisible : (Text.trim text.toList).isEmpty = false := by
    rw [List.isEmpty_eq_false_iff]
    intro hempty
    obtain ⟨front, back, hsplit, hfront, hback, -⟩ := Text.exists_trim text.toList
    rw [hempty, List.append_nil] at hsplit
    have hblank : Text.Blank text.toList := by
      rw [hsplit]
      exact List.forall_mem_append.mpr ⟨hfront, hback⟩
    exact Yaml.Stream.not_mapping_of_blank hblank h
  rw [Layer.ofYaml, hvisible, if_neg Bool.false_ne_true, h]

/-- **Keys that are not known.** A document with a key that is no key of a layer, or with such a key
of the database, is no layer; nor is one with a key of the replication that is neither a word nor
the number of a place. An entry of the replication under another word or number than those of the
strategy and its setting makes no difference. -/
theorem Layer.unknown_keys {text : String} {anchor : Option Nat} {tag : Option String}
    {entries : List (Yaml.Node × Yaml.Node)}
    (htext : Yaml.Stream.ofText? text = some (.document (.mapping anchor tag entries))) :
    (Refused (aliasesOf (.mapping anchor tag entries)) entries →
      ∃ error, Layer.ofYaml text = .error error) ∧
    ∀ (aliases : Aliases) (depth : Nat) (path : String) (anchor : Option Nat) (tag : Option String)
      (front back : List (Yaml.Node × Yaml.Node)) (key value : Yaml.Node) (setting : Replication)
      (count next : Nat), Neglected aliases depth path setting key value →
        (readReplication aliases depth path (.mapping anchor tag (front ++ (key, value) :: back))
            count = .ok (setting, next) ↔
          readReplication aliases depth path (.mapping anchor tag (front ++ back)) count =
            .ok (setting, next)) := by
  refine ⟨fun hrefused => ?_, fun _ _ _ _ _ _ _ _ _ _ _ _ => readReplication_neglected⟩
  rw [Layer.ofYaml_eq htext]
  rcases hread : Layer.ofNode (.mapping anchor tag entries) with error | layer
  · exact ⟨.value error, rfl⟩
  · exact absurd hrefused (not_refused_of_ofNode hread)

namespace Document.Sample

/-- A word as it stands in a document. -/
def word (text : String) : Yaml.Node := .scalar none none true false text

/-- The entries of a replication with a key that it has not. -/
def racked : List (Yaml.Node × Yaml.Node) :=
  [(word "class", word "SimpleStrategy"), (word "replication_factor", word "3"),
    (word "rack", word "2")]

/-- The text of a document with that replication. -/
def text : String := "replication:\n  class: SimpleStrategy\n  replication_factor: 3\n  rack: 2\n"

/-- Its tokens. -/
def tokens : List Yaml.Token :=
  [.blockMapping, .key, .scalar true false "replication", .value, .blockMapping,
    .key, .scalar true false "class", .value, .scalar true false "SimpleStrategy",
    .key, .scalar true false "replication_factor", .value, .scalar true false "3",
    .key, .scalar true false "rack", .value, .scalar true false "2", .blockEnd, .blockEnd]

/-- The document. -/
def root : Yaml.Node := .mapping none none [(word "replication", .mapping none none racked)]

/-- The layer that it is read as. -/
def layer : Layer := { Layer.empty with replication := some (.simple 3) }

theorem ofText?_text : Yaml.Stream.ofText? text = some (.document root) := by
  have htokens : Yaml.tokens? text.toList = some tokens := by decide +kernel
  rw [Yaml.Stream.ofText?, htokens]
  rfl

theorem ofYaml_text : Layer.ofYaml text = .ok layer := by
  have hsome : (Layer.ofYaml text).toOption = some layer := by decide +kernel
  rcases hread : Layer.ofYaml text with error | found
  · rw [hread] at hsome
    cases hsome
  · rw [hread] at hsome
    exact congrArg Except.ok (Option.some.inj hsome)

theorem unknown_rack : (aliasesOf root).Unknown ["class", "replication_factor"] (word "rack") := by
  rintro name hname ⟨anchor, tag, plain, literal, hkey⟩
  cases hkey
  exact absurd hname (by decide)

theorem neglected_rack :
    Neglected ⟨[], 0⟩ 1 "replication" (.simple 3) (word "rack") (word "2") where
  direct := nofun
  other := by
    have hword : Yaml.resolve "rack" = .text "rack" := by decide +kernel
    exact .inl ⟨"rack", ⟨none, none, true, false, "rack", rfl, rfl, congrArg Except.ok hword⟩,
      by decide, by decide⟩
  readable := by
    have hnumber : Yaml.resolve "2" = .int 2 := by decide +kernel
    exact ⟨.meaning (.int 2), readLoose_of_means nofun
      ⟨none, none, true, false, "2", rfl, rfl, congrArg Except.ok hnumber⟩ nofun⟩

end Document.Sample

open Document.Sample

/-- A misspelled key is refused at the top; in a replication it is passed over. -/
theorem Layer.unknown_keys_sample :
    Yaml.Stream.ofText? "keyspce: orders\n" =
        some (.document (.mapping none none [(word "keyspce", word "orders")])) ∧
      Refused (aliasesOf (.mapping none none [(word "keyspce", word "orders")]))
        [(word "keyspce", word "orders")] ∧
      (∃ error, Layer.ofYaml "keyspce: orders\n" = .error error) ∧
      Neglected ⟨[], 0⟩ 1 "replication" (.simple 3) (word "rack") (word "2") ∧
      (readReplication ⟨[], 0⟩ 1 "replication" (.mapping none none racked) 0 = .ok (.simple 3, 0) ↔
        readReplication ⟨[], 0⟩ 1 "replication" (.mapping none none (racked.take 2)) 0 =
          .ok (.simple 3, 0)) := by
  have htext : Yaml.Stream.ofText? "keyspce: orders\n" =
      some (.document (.mapping none none [(word "keyspce", word "orders")])) := by
    have htokens : Yaml.tokens? "keyspce: orders\n".toList =
        some [.blockMapping, .key, .scalar true false "keyspce", .value,
          .scalar true false "orders", .blockEnd] := by decide +kernel
    rw [Yaml.Stream.ofText?, htokens]
    rfl
  have hrefused : Refused (aliasesOf (.mapping none none [(word "keyspce", word "orders")]))
      [(word "keyspce", word "orders")] := by
    refine .layer List.mem_cons_self ?_
    rintro name hname ⟨anchor, tag, plain, literal, hkey⟩
    cases hkey
    exact absurd hname (by decide)
  obtain ⟨hkeys, hreplication⟩ := Layer.unknown_keys htext
  exact ⟨htext, hrefused, hkeys hrefused, neglected_rack,
    hreplication _ _ _ _ _ (racked.take 2) [] _ _ _ _ _ neglected_rack⟩

/-- A replication may have a key that is neither the strategy's nor its setting's. -/
theorem Layer.exists_key_passed_over :
    Yaml.Stream.ofText? Sample.text = some (.document root) ∧
      root = .mapping none none [(word "replication", .mapping none none racked)] ∧
      (word "class", word "SimpleStrategy") ∈ racked ∧
      (∃ entry ∈ racked, (aliasesOf root).Unknown ["class", "replication_factor"] entry.1) ∧
      Layer.ofYaml Sample.text = .ok Sample.layer :=
  ⟨ofText?_text, rfl, by simp [racked], ⟨(word "rack", word "2"), by simp [racked], unknown_rack⟩,
    ofYaml_text⟩

end SchemaMigration
