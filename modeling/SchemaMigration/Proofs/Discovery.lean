import Mathlib.Data.List.Forall2
import Mathlib.Data.List.Nodup
import SchemaMigration.Discovery
import SchemaMigration.Ledger.Record
import SchemaMigration.Proofs.Naming

/-!
# Discovered scripts

* `version_le_of_discover`: the ledger has room for the version of every discovered script, so no
  discovered script is refused by the ledger.
* `sorted_of_discover`: discovered scripts stand in the order of their versions.
* `holds_of_discover`: a discovered script is made from the text of the file of its name.
* `names_of_discover`: discovered scripts have names of their own, as files of a directory do.
-/

namespace SchemaMigration

/-- A script that was read is made from the name of its file, the version in that name, and the
text of the file. -/
theorem readScript_eq {naming : NamingScheme} {directory : String} {file : String × ByteArray}
    {script : Script} (h : readScript naming directory file = .ok script) :
    ∃ version text, naming.version file.1 = .ok version ∧ String.fromUTF8? file.2 = some text ∧
      script = Script.ofContents version file.1 (pathIn directory file.1) text := by
  unfold readScript at h
  rcases hversion : naming.version file.1 with error | version
  · simp [hversion, bind, Except.bind, Except.mapError] at h
  · rcases htext : String.fromUTF8? file.2 with _ | text
    · simp [hversion, htext, bind, Except.bind, Except.mapError] at h
    · simp only [hversion, htext, bind, Except.bind, Except.mapError, Except.ok.injEq] at h
      exact ⟨version, text, rfl, rfl, h.symm⟩

/-- A script that was read has the name of its file, and the version in that name. -/
theorem readScript_ok {naming : NamingScheme} {directory : String} {file : String × ByteArray}
    {script : Script} (h : readScript naming directory file = .ok script) :
    script.name = file.1 ∧ naming.version file.1 = .ok script.version := by
  obtain ⟨version, text, hversion, -, rfl⟩ := readScript_eq h
  exact ⟨rfl, hversion⟩

/-- Reading goes through only if it does for every file. -/
theorem readScripts_ok {naming : NamingScheme} {directory : String}
    {files : List (String × ByteArray)} {scripts : List Script}
    (h : readScripts naming directory files = .ok scripts) :
    List.Forall₂ (fun file script => readScript naming directory file = .ok script)
      files scripts := by
  induction files generalizing scripts with
  | nil =>
      have hnil : scripts = [] := by simpa [readScripts, eq_comm] using h
      subst hnil
      exact .nil
  | cons file files ih =>
      simp only [readScripts, bind, Except.bind] at h
      -- the first file that cannot be read would end the reading
      rcases hscript : readScript naming directory file with error | script
      · simp [hscript] at h
      · rcases hrest : readScripts naming directory files with error | rest
        · simp [hscript, hrest] at h
        · simp only [hscript, hrest, Except.ok.injEq] at h
          subst h
          exact .cons hscript (ih hrest)

/-- Reading fails only with the error of a file that cannot be read. -/
theorem exists_file_of_error {naming : NamingScheme} {directory : String}
    {files : List (String × ByteArray)} {error : DiscoveryError}
    (h : readScripts naming directory files = .error error) :
    ∃ file ∈ files, readScript naming directory file = .error error := by
  induction files with
  | nil => simp [readScripts] at h
  | cons file files ih =>
      simp only [readScripts, bind, Except.bind] at h
      rcases hscript : readScript naming directory file with other | script
      · simp only [hscript, Except.error.injEq] at h
        exact ⟨file, List.mem_cons_self, h ▸ hscript⟩
      · rcases hrest : readScripts naming directory files with other | rest
        · simp only [hscript, hrest, Except.error.injEq] at h
          obtain ⟨later, hlater, hread⟩ := ih (h ▸ hrest)
          exact ⟨later, List.mem_cons_of_mem _ hlater, hread⟩
        · simp [hscript, hrest] at h

theorem exists_file_of_mem {naming : NamingScheme} {directory : String}
    {files : List (String × ByteArray)} {scripts : List Script}
    (h : List.Forall₂ (fun file script => readScript naming directory file = .ok script)
      files scripts) {script : Script} (hscript : script ∈ scripts) :
    ∃ file ∈ files, readScript naming directory file = .ok script := by
  obtain ⟨i, hi, rfl⟩ := List.mem_iff_getElem.mp hscript
  have hlength := h.length_eq
  exact ⟨files[i], List.getElem_mem (by omega), h.get (by omega) hi⟩

theorem exists_script_of_mem {naming : NamingScheme} {directory : String}
    {files : List (String × ByteArray)} {scripts : List Script}
    (h : List.Forall₂ (fun file script => readScript naming directory file = .ok script)
      files scripts) {file : String × ByteArray} (hfile : file ∈ files) :
    ∃ script ∈ scripts, readScript naming directory file = .ok script := by
  obtain ⟨i, hi, rfl⟩ := List.mem_iff_getElem.mp hfile
  have hlength := h.length_eq
  exact ⟨scripts[i], List.getElem_mem (by omega), h.get hi (by omega)⟩

theorem names_of_readScripts {naming : NamingScheme} {directory : String}
    {files : List (String × ByteArray)} {scripts : List Script}
    (h : List.Forall₂ (fun file script => readScript naming directory file = .ok script)
      files scripts) : scripts.map (·.name) = files.map (·.1) := by
  induction h with
  | nil => rfl
  | cons hscript hrest ih => rw [List.map_cons, List.map_cons, (readScript_ok hscript).1, ih]

/-- The files that are read are the regular files of accepted names. -/
theorem mem_candidates_iff {naming : NamingScheme} {items : List (String × EntryKind)}
    {file : String × ByteArray} : file ∈ candidates naming items ↔
      naming.accepts file.1 = true ∧ (file.1, .file file.2) ∈ items := by
  simp only [candidates, List.mem_mergeSort, List.mem_filterMap]
  constructor
  · rintro ⟨⟨name, kind⟩, hitem, hkind⟩
    cases kind with
    | other => simp at hkind
    | file bytes =>
        by_cases haccepts : naming.accepts name = true
        · simp only [haccepts, if_true, Option.some.injEq] at hkind
          subst hkind
          exact ⟨haccepts, hitem⟩
        · simp [haccepts] at hkind
  · rintro ⟨haccepts, hitem⟩
    exact ⟨_, hitem, by simp [haccepts]⟩

theorem candidates_sorted (naming : NamingScheme) (items : List (String × EntryKind)) :
    (candidates naming items).Pairwise fun a b => a.1 ≤ b.1 := by
  have h := @List.pairwise_mergeSort _ (fun a b : String × ByteArray => decide (a.1 ≤ b.1))
    (fun a b c hab hbc => by
      simpa using String.le_trans (by simpa using hab) (by simpa using hbc))
    (fun a b => by simpa using String.le_total a.1 b.1)
  unfold candidates
  simpa using h _

/-- Scripts read from accepted files have versions that fit the ledger, in the order of the file
names. -/
theorem versions_of_readScripts {naming : NamingScheme} {directory : String}
    {files : List (String × ByteArray)} {scripts : List Script}
    (haccepts : ∀ file ∈ files, naming.accepts file.1 = true)
    (hsorted : files.Pairwise fun a b => a.1 ≤ b.1)
    (h : List.Forall₂ (fun file script => readScript naming directory file = .ok script)
      files scripts) :
    (∀ script ∈ scripts, script.version < tenTo maxVersionWidth) ∧
      scripts.Pairwise fun a b => a.version ≤ b.version := by
  induction h with
  | nil => simp
  | @cons file script files scripts hscript hrest ih =>
      obtain ⟨hle, hsorted⟩ := List.pairwise_cons.mp hsorted
      obtain ⟨hfile, hfiles⟩ := List.forall_mem_cons.mp haccepts
      obtain ⟨hbounds, hpairs⟩ := ih hfiles hsorted
      have hversion := (readScript_ok hscript).2
      refine ⟨?_, List.pairwise_cons.mpr ⟨?_, hpairs⟩⟩
      · intro other hother
        rcases List.mem_cons.mp hother with rfl | hother
        · exact NamingScheme.version_lt_of_accepts hfile hversion
        · exact hbounds other hother
      · intro other hother
        -- the later script comes from a later file
        obtain ⟨later, hlater, hread⟩ := exists_file_of_mem hrest hother
        exact NamingScheme.version_mono hfile (hfiles later hlater) hversion
          (readScript_ok hread).2 (hle later hlater)

theorem result_of_entries (naming : NamingScheme) (directory : String)
    (items : List (String × EntryKind)) : (discover naming directory (.entries items)).result =
      readScripts naming directory (candidates naming items) := by
  rcases hread : readScripts naming directory (candidates naming items) with error | scripts <;>
    simp [discover, hread]

theorem readScripts_of_entries {naming : NamingScheme} {directory : String}
    {items : List (String × EntryKind)} {scripts : List Script}
    (h : (discover naming directory (.entries items)).result = .ok scripts) :
    List.Forall₂ (fun file script => readScript naming directory file = .ok script)
      (candidates naming items) scripts := by
  rw [result_of_entries] at h
  exact readScripts_ok h

/-- Scripts are discovered in the files of the directory; a missing one holds none. -/
theorem discover_cases {naming : NamingScheme} {directory : String} {listing : Listing}
    {scripts : List Script} (h : (discover naming directory listing).result = .ok scripts) :
    scripts = [] ∨ ∃ items, listing = .entries items ∧
      List.Forall₂ (fun file script => readScript naming directory file = .ok script)
        (candidates naming items) scripts := by
  cases listing with
  | missing => exact .inl (by simpa [discover, eq_comm] using h)
  | refused reason => simp [discover] at h
  | entries items => exact .inr ⟨items, rfl, readScripts_of_entries h⟩

theorem readScripts_of_discover {naming : NamingScheme} {directory : String} {listing : Listing}
    {scripts : List Script} (h : (discover naming directory listing).result = .ok scripts) :
    ∃ files, (∀ file ∈ files, naming.accepts file.1 = true) ∧
      (files.Pairwise fun a b => a.1 ≤ b.1) ∧
      List.Forall₂ (fun file script => readScript naming directory file = .ok script)
        files scripts := by
  rcases discover_cases h with rfl | ⟨items, -, hread⟩
  · exact ⟨[], by simp, .nil, .nil⟩
  · exact ⟨candidates naming items, fun file hfile => (mem_candidates_iff.mp hfile).1,
      candidates_sorted naming items, hread⟩

/-- The ledger has room for every version of the greatest width. -/
theorem tenTo_maxVersionWidth_le : tenTo maxVersionWidth ≤ Ledger.maxColumnVersion := by decide

/-- So it has room for every version that discovery can find. -/
theorem version_le_of_discover {naming : NamingScheme} {directory : String} {listing : Listing}
    {scripts : List Script} (h : (discover naming directory listing).result = .ok scripts) :
    ∀ script ∈ scripts, script.version ≤ Ledger.maxColumnVersion := by
  obtain ⟨files, haccepts, hsorted, hread⟩ := readScripts_of_discover h
  intro script hscript
  have hlt := (versions_of_readScripts haccepts hsorted hread).1 script hscript
  exact Nat.le_trans (Nat.le_of_lt hlt) tenTo_maxVersionWidth_le

/-- Discovered scripts stand in the order of their versions. -/
theorem sorted_of_discover {naming : NamingScheme} {directory : String} {listing : Listing}
    {scripts : List Script} (h : (discover naming directory listing).result = .ok scripts) :
    scripts.Pairwise fun a b => a.version ≤ b.version := by
  obtain ⟨files, haccepts, hsorted, hread⟩ := readScripts_of_discover h
  exact (versions_of_readScripts haccepts hsorted hread).2

/-! ## Names and texts -/

namespace Listing

/-- The directory has a file of the name, with the text. -/
def Holds (listing : Listing) (name text : String) : Prop :=
  ∃ items bytes, listing = .entries items ∧ (name, .file bytes) ∈ items ∧
    String.fromUTF8? bytes = some text

/-- No two entries of the directory have one name. -/
def Distinct (listing : Listing) : Prop :=
  ∀ items, listing = .entries items → (items.map (·.1)).Nodup

/-- A file has one text. -/
theorem Holds.unique {listing : Listing} (hdistinct : listing.Distinct) {name first second : String}
    (hfirst : listing.Holds name first) (hsecond : listing.Holds name second) : first = second := by
  obtain ⟨items, bytes, hitems, hmem, htext⟩ := hfirst
  obtain ⟨items', bytes', hitems', hmem', htext'⟩ := hsecond
  obtain rfl : items = items' := by
    rw [hitems] at hitems'
    exact Listing.entries.inj hitems'
  have hsame := List.inj_on_of_nodup_map (hdistinct items hitems) hmem hmem' rfl
  obtain rfl : bytes = bytes' := by simpa using hsame
  exact Option.some.inj (htext.symm.trans htext')

/-- Selected elements are part of a list as far as they are told by what they are selected from. -/
theorem map_filterMap_sublist {α β γ : Type} {f : α → Option β} {g : β → γ} {p : α → γ}
    (h : ∀ a b, f a = some b → g b = p a) {list : List α} :
    ((list.filterMap f).map g).Sublist (list.map p) := by
  induction list with
  | nil => exact List.Sublist.slnil
  | cons a list ih =>
      rcases hf : f a with _ | b
      · rw [List.filterMap_cons_none hf, List.map_cons]
        exact ih.cons (p a)
      · rw [List.filterMap_cons_some hf, List.map_cons, List.map_cons, h a b hf]
        exact ih.cons_cons (p a)

/-- The place of an entry follows from its name. -/
theorem place_of_nameIn {place : Place} {entry : Place × Entry} {found : String × Entry}
    (h : Files.nameIn place entry = some found) : entry.1 = place ++ [found.1] := by
  unfold Files.nameIn at h
  rcases hlast : entry.1.getLast? with _ | name
  · simp [hlast] at h
  · by_cases hfront : entry.1.dropLast = place
    · simp only [hlast, hfront, beq_self_eq_true, if_true, Option.some.injEq] at h
      subst h
      rw [← hfront]
      exact (List.dropLast_append_getLast? name hlast).symm
    · simp [hlast, hfront] at h

/-- In a tree that lists every place once, directories have no two entries of one name. -/
theorem distinct_ofFiles {files : Files} (h : (files.entries.map (·.1)).Nodup) (path : String) :
    (ofFiles files path).Distinct := by
  intro items hitems
  unfold ofFiles at hitems
  rcases hlist : files.list path with fault | entries
  · cases fault <;> simp [hlist] at hitems
  · simp only [hlist, Listing.entries.injEq] at hitems
    subst hitems
    unfold Files.list at hlist
    rcases hfind : files.find path with fault | place
    · simp [hfind] at hlist
    · rcases hat : files.at? place with _ | ⟨bytes | _⟩
      · simp [hfind, hat] at hlist
      · simp [hfind, hat] at hlist
      · simp only [hfind, hat, Except.ok.injEq] at hlist
        subst hlist
        -- the places of the entries are places of the tree
        have hplaces : ((files.entries.filterMap (Files.nameIn place)).map
            fun found => place ++ [found.1]).Sublist (files.entries.map (·.1)) :=
          map_filterMap_sublist fun entry found hfound => (place_of_nameIn hfound).symm
        have hnames := h.sublist hplaces
        rw [← Function.comp_def (fun name => place ++ [name]) Prod.fst, ← List.map_map] at hnames
        rw [List.map_map]
        exact hnames.of_map _

end Listing

theorem candidates_nodup {naming : NamingScheme} {items : List (String × EntryKind)}
    (h : (items.map (·.1)).Nodup) : ((candidates naming items).map (·.1)).Nodup := by
  unfold candidates
  rw [((List.mergeSort_perm _ _).map _).nodup_iff]
  refine h.sublist (Listing.map_filterMap_sublist ?_)
  rintro ⟨name, kind⟩ file hfile
  cases kind with
  | other => simp at hfile
  | file bytes =>
      by_cases haccepts : naming.accepts name = true
      · simp only [haccepts, if_true, Option.some.injEq] at hfile
        rw [← hfile]
      · simp [haccepts] at hfile

/-- A discovered script has a name of the scheme, with its version in it. It is made from the text
of the file of that name. -/
theorem holds_of_discover {naming : NamingScheme} {directory : String} {listing : Listing}
    {scripts : List Script} (h : (discover naming directory listing).result = .ok scripts)
    {script : Script} (hscript : script ∈ scripts) :
    naming.accepts script.name = true ∧ naming.version script.name = .ok script.version ∧
      ∃ text, listing.Holds script.name text ∧ script.checksum = Sha256.checksum text := by
  rcases discover_cases h with rfl | ⟨items, hitems, hread⟩
  · cases hscript
  · obtain ⟨file, hfile, hok⟩ := exists_file_of_mem hread hscript
    obtain ⟨version, text, hversion, htext, rfl⟩ := readScript_eq hok
    obtain ⟨haccepts, hitem⟩ := mem_candidates_iff.mp hfile
    exact ⟨haccepts, hversion, text, ⟨items, file.2, hitems, hitem, htext⟩, rfl⟩

/-- No two discovered scripts have one name. -/
theorem names_of_discover {naming : NamingScheme} {directory : String} {listing : Listing}
    {scripts : List Script} (h : (discover naming directory listing).result = .ok scripts)
    (hdistinct : listing.Distinct) : (scripts.map (·.name)).Nodup := by
  rcases discover_cases h with rfl | ⟨items, hitems, hread⟩
  · exact List.nodup_nil
  · rw [names_of_readScripts hread]
    exact candidates_nodup (hdistinct items hitems)

end SchemaMigration
