import SchemaMigration.Proofs.Discovery
import SchemaMigration.Proofs.Naming.Grammar
import SchemaMigration.Proofs.Text.ByteOrder

/-!
# What is discovered in a directory

A discovery finds the regular files whose names the scheme accepts, and nothing else. It reads them
in the order of their names up to the first that is no text. The file system may list the entries of
a directory in any order.

* `ScriptIn`: the script that a directory has in one of its files.
* `candidates_of_perm`: the order of the entries does not matter.
* `readScripts_of_split`: the first file that cannot be read decides.
* `discover_exact`: what a discovery finds, and how it fails.
-/

namespace SchemaMigration

variable {naming : NamingScheme} {directory : String} {items : List (String × EntryKind)}

/-- The directory has the script in a regular file whose name the scheme accepts: it has the version
that stands in the name and the statements and the checksum of the text in the file. -/
structure ScriptIn (naming : NamingScheme) (directory : String) (items : List (String × EntryKind))
    (script : Script) : Prop where
  accepted : naming.accepts script.name = true
  version : ∃ digits middle, naming.Spells digits middle script.name ∧
    script.version = Text.digitsValue digits.toList
  path : script.path = pathIn directory script.name
  contents : ∃ bytes text, (script.name, .file bytes) ∈ items ∧
    String.fromUTF8? bytes = some text ∧ script.statements = statementsOf text ∧
      script.checksum = Sha256.checksum text

/-- The directory has a regular file of a name that the scheme accepts, and the file is no text. -/
def Unreadable (naming : NamingScheme) (items : List (String × EntryKind)) (name : String) : Prop :=
  naming.accepts name = true ∧
    ∃ bytes, (name, .file bytes) ∈ items ∧ String.fromUTF8? bytes = none

/-! ## The files -/

theorem candidates_strict (h : (items.map (·.1)).Nodup) :
    (candidates naming items).Pairwise fun a b => a.1 < b.1 := by
  have hnames : (candidates naming items).Pairwise fun a b => a.1 ≠ b.1 :=
    List.pairwise_map.mp (candidates_nodup h)
  refine (candidates_sorted naming items).imp₂ (fun a b hle hne => ?_) hnames
  by_contra hnot
  exact hne (String.le_antisymm hle (String.not_lt.mp hnot))

/-- However the entries are listed, the files are read in the same order. -/
theorem candidates_of_perm {listed : List (String × EntryKind)} (hperm : listed.Perm items)
    (h : (items.map (·.1)).Nodup) : candidates naming listed = candidates naming items := by
  have h' : (listed.map (·.1)).Nodup := (hperm.map _).nodup_iff.mpr h
  have hfiles : (candidates naming listed).Perm (candidates naming items) := by
    rw [List.perm_ext_iff_of_nodup (.of_map _ (candidates_nodup h'))
      (.of_map _ (candidates_nodup h))]
    intro file
    rw [mem_candidates_iff, mem_candidates_iff, hperm.mem_iff]
  refine hfiles.eq_of_pairwise ?_ (candidates_strict h') (candidates_strict h)
  intro a b _ _ hab hba
  exact absurd hba (String.lt_asymm hab)

/-! ## Reading them -/

/-- A file of an accepted name can be read if it is a text. -/
theorem readScript_of_text {file : String × ByteArray} {text : String}
    (haccepts : naming.accepts file.1 = true) (htext : String.fromUTF8? file.2 = some text) :
    ∃ script, readScript naming directory file = .ok script := by
  obtain ⟨digits, middle, hspells⟩ := NamingScheme.accepts_iff_exists_spells.mp haccepts
  simp [readScript, NamingScheme.version_of_spells hspells, htext, bind, Except.bind,
    Except.mapError]

/-- If it is no text, this is what the error is about. -/
theorem readScript_of_no_text {file : String × ByteArray}
    (haccepts : naming.accepts file.1 = true) (htext : String.fromUTF8? file.2 = none) :
    readScript naming directory file =
      .error (.read (pathIn directory file.1) Files.Fault.notText.message) := by
  obtain ⟨digits, middle, hspells⟩ := NamingScheme.accepts_iff_exists_spells.mp haccepts
  simp [readScript, NamingScheme.version_of_spells hspells, htext, bind, Except.bind,
    Except.mapError]

/-- Behind files that can be read, the next one decides. -/
theorem readScripts_of_split {before after : List (String × ByteArray)}
    {file : String × ByteArray} {error : DiscoveryError}
    (hbefore : ∀ f ∈ before, ∃ script, readScript naming directory f = .ok script)
    (hfile : readScript naming directory file = .error error) :
    readScripts naming directory (before ++ file :: after) = .error error := by
  induction before with
  | nil => simp [readScripts, hfile, bind, Except.bind]
  | cons first before ih =>
      obtain ⟨⟨script, hscript⟩, hbefore⟩ := List.forall_mem_cons.mp hbefore
      simp [readScripts, hscript, ih hbefore, bind, Except.bind]

theorem readScripts_of_forall {files : List (String × ByteArray)}
    (h : ∀ file ∈ files, ∃ script, readScript naming directory file = .ok script) :
    ∃ scripts, readScripts naming directory files = .ok scripts := by
  rcases hread : readScripts naming directory files with error | scripts
  · obtain ⟨file, hfile, herror⟩ := exists_file_of_error hread
    obtain ⟨script, hscript⟩ := h file hfile
    cases hscript.symm.trans herror
  · exact ⟨scripts, rfl⟩

/-! ## The directory -/

theorem scriptIn_of_readScript {file : String × ByteArray} {script : Script}
    (hfile : file ∈ candidates naming items)
    (h : readScript naming directory file = .ok script) :
    ScriptIn naming directory items script := by
  obtain ⟨haccepts, hitem⟩ := mem_candidates_iff.mp hfile
  obtain ⟨version, text, hversion, htext, rfl⟩ := readScript_eq h
  obtain ⟨digits, middle, hspells⟩ := NamingScheme.accepts_iff_exists_spells.mp haccepts
  have hvalue : version = Text.digitsValue digits.toList :=
    Except.ok.inj (hversion.symm.trans (NamingScheme.version_of_spells hspells))
  exact ⟨haccepts, ⟨digits, middle, hspells, hvalue⟩, rfl, file.2, text, hitem, htext, rfl, rfl⟩

/-- A directory has one script of a name at most. -/
theorem ScriptIn.unique {first second : Script} (hdistinct : (items.map (·.1)).Nodup)
    (hfirst : ScriptIn naming directory items first)
    (hsecond : ScriptIn naming directory items second) (hname : first.name = second.name) :
    first = second := by
  obtain ⟨version, name, path, statements, checksum⟩ := first
  obtain ⟨version', name', path', statements', checksum'⟩ := second
  obtain ⟨-, ⟨digits, middle, hspells, hversion⟩, hpath, bytes, text, hitem, htext,
    hstatements, hchecksum⟩ := hfirst
  obtain ⟨-, ⟨digits', middle', hspells', hversion'⟩, hpath', bytes', text', hitem', htext',
    hstatements', hchecksum'⟩ := hsecond
  dsimp only at *
  subst hname
  have hbytes : bytes = bytes' := by
    have hsame := List.inj_on_of_nodup_map hdistinct hitem hitem' rfl
    simpa using hsame
  obtain rfl : text = text' := by
    rw [← hbytes, htext] at htext'
    exact Option.some.inj htext'
  have hvalue : Text.digitsValue digits.toList = Text.digitsValue digits'.toList :=
    Except.ok.inj ((NamingScheme.version_of_spells hspells).symm.trans
      (NamingScheme.version_of_spells hspells'))
  simp only [hversion, hversion', hvalue, hpath, hpath', hstatements, hstatements', hchecksum,
    hchecksum']

/-- What has been read is what the directory has. -/
theorem mem_iff_scriptIn {scripts : List Script} (hdistinct : (items.map (·.1)).Nodup)
    (h : List.Forall₂ (fun file script => readScript naming directory file = .ok script)
      (candidates naming items) scripts) (script : Script) :
    script ∈ scripts ↔ ScriptIn naming directory items script := by
  constructor
  · intro hscript
    obtain ⟨file, hfile, hread⟩ := exists_file_of_mem h hscript
    exact scriptIn_of_readScript hfile hread
  · intro hscript
    obtain ⟨bytes, text, hitem, -⟩ := hscript.contents
    have hfile : (script.name, bytes) ∈ candidates naming items :=
      mem_candidates_iff.mpr ⟨hscript.accepted, hitem⟩
    -- the file of that name has been read, and only one script can come from it
    obtain ⟨found, hfound, hread⟩ := exists_script_of_mem h hfile
    have hin := scriptIn_of_readScript hfile hread
    have hname : script.name = found.name := (readScript_ok hread).1.symm
    rwa [hscript.unique hdistinct hin hname]

/-- What has been read stands in the order of the names, and so of the versions. -/
theorem increasing_of_discover {scripts : List Script} (hdistinct : (items.map (·.1)).Nodup)
    (h : (discover naming directory (.entries items)).result = .ok scripts) :
    scripts.Pairwise fun a b =>
      Text.bytes a.name < Text.bytes b.name ∧ a.version ≤ b.version := by
  have hnames : (scripts.map (·.name)).Pairwise (· < ·) := by
    rw [names_of_readScripts (readScripts_of_entries h), List.pairwise_map]
    exact candidates_strict hdistinct
  refine (List.pairwise_map.mp hnames).imp₂ (fun a b hlt hle => ?_) (sorted_of_discover h)
  exact ⟨Text.bytes_lt_bytes_iff.mpr hlt, hle⟩

/-- If some file is no text, the error is about the first one in the order of the names. -/
theorem exists_least_unreadable (hdistinct : (items.map (·.1)).Nodup) {name : String}
    (h : Unreadable naming items name) :
    ∃ least, Unreadable naming items least ∧
      (∀ other, Unreadable naming items other →
        other = least ∨ Text.bytes least < Text.bytes other) ∧
      (discover naming directory (.entries items)).result =
        .error (.read (pathIn directory least) Files.Fault.notText.message) := by
  obtain ⟨haccepts, bytes, hitem, hbytes⟩ := h
  have hfile : (name, bytes) ∈ candidates naming items :=
    mem_candidates_iff.mpr ⟨haccepts, hitem⟩
  -- the first file that is no text
  obtain ⟨file, hfind⟩ : ∃ file, (candidates naming items).find?
      (fun file => (String.fromUTF8? file.2).isNone) = some file := by
    rw [← Option.isSome_iff_exists, List.find?_isSome]
    exact ⟨_, hfile, by simp [hbytes]⟩
  obtain ⟨hnone, before, after, hsplit, hbefore⟩ := List.find?_eq_some_iff_append.mp hfind
  have hmem : ∀ f ∈ before ++ file :: after, naming.accepts f.1 = true ∧
      (f.1, .file f.2) ∈ items := fun f hf => mem_candidates_iff.mp (hsplit ▸ hf)
  obtain ⟨hfileAccepts, hfileItem⟩ := hmem file (by simp)
  have hnoText : String.fromUTF8? file.2 = none := by simpa using hnone
  refine ⟨file.1, ⟨hfileAccepts, file.2, hfileItem, hnoText⟩, ?_, ?_⟩
  · rintro other ⟨hother, content, hcontent, hnoContent⟩
    have hlater : (other, content) ∈ before ++ file :: after :=
      hsplit ▸ mem_candidates_iff.mpr ⟨hother, hcontent⟩
    have hstrict : (candidates naming items).Pairwise fun a b => a.1 < b.1 :=
      candidates_strict hdistinct
    rw [hsplit, List.pairwise_append, List.pairwise_cons] at hstrict
    rcases List.mem_append.mp hlater with hin | hin
    · -- those in front of it are texts
      have htext := hbefore _ hin
      simp [hnoContent] at htext
    · rcases List.mem_cons.mp hin with heq | hin
      · exact .inl (congrArg Prod.fst heq)
      · exact .inr (Text.bytes_lt_bytes_iff.mpr (hstrict.2.1.1 _ hin))
  · rw [result_of_entries, hsplit]
    refine readScripts_of_split (fun f hf => ?_) (readScript_of_no_text hfileAccepts hnoText)
    have htext : (String.fromUTF8? f.2).isSome = true := by simpa using hbefore f hf
    obtain ⟨text, htext⟩ := Option.isSome_iff_exists.mp htext
    exact readScript_of_text (hmem f (List.mem_append_left _ hf)).1 htext

/-- **Exact discovery.** The order in which the entries of a directory are listed does not matter.
If every regular file of an accepted name is a text, a discovery finds the scripts in these files
and no others, in strictly increasing order of their names and so in the order of their versions.
Otherwise it fails, and the error is about the file of the least name among those that are no
texts. -/
theorem discover_exact (naming : NamingScheme) (directory : String)
    {items : List (String × EntryKind)} (hdistinct : (items.map (·.1)).Nodup) :
    (∀ listed, listed.Perm items → (discover naming directory (.entries listed)).result =
      (discover naming directory (.entries items)).result) ∧
    ((∀ name, ¬ Unreadable naming items name) → ∃ scripts,
      (discover naming directory (.entries items)).result = .ok scripts ∧
      (∀ name bytes, (name, .file bytes) ∈ items → naming.accepts name = true →
        ∃ script ∈ scripts, script.name = name) ∧
      (∀ script, script ∈ scripts ↔ ScriptIn naming directory items script) ∧
      scripts.Pairwise fun a b =>
        Text.bytes a.name < Text.bytes b.name ∧ a.version ≤ b.version) ∧
    ∀ name, Unreadable naming items name → ∃ least, Unreadable naming items least ∧
      (∀ other, Unreadable naming items other →
        other = least ∨ Text.bytes least < Text.bytes other) ∧
      (discover naming directory (.entries items)).result =
        .error (.read (pathIn directory least) Files.Fault.notText.message) := by
  refine ⟨fun listed hperm => ?_, fun hall => ?_, fun name h => exists_least_unreadable hdistinct h⟩
  · rw [result_of_entries, result_of_entries, candidates_of_perm hperm hdistinct]
  · have hread : ∀ file ∈ candidates naming items,
        ∃ script, readScript naming directory file = .ok script := by
      intro file hfile
      obtain ⟨haccepts, hitem⟩ := mem_candidates_iff.mp hfile
      rcases htext : String.fromUTF8? file.2 with _ | text
      · exact absurd ⟨haccepts, file.2, hitem, htext⟩ (hall file.1)
      · exact readScript_of_text haccepts htext
    obtain ⟨scripts, hscripts⟩ := readScripts_of_forall hread
    have hresult := (result_of_entries naming directory items).trans hscripts
    have hfiles := readScripts_ok hscripts
    refine ⟨scripts, hresult, fun name bytes hitem haccepts => ?_,
      mem_iff_scriptIn hdistinct hfiles, increasing_of_discover hdistinct hresult⟩
    have hfile : (name, bytes) ∈ candidates naming items :=
      mem_candidates_iff.mpr ⟨haccepts, hitem⟩
    obtain ⟨script, hscript, hread⟩ := exists_script_of_mem hfiles hfile
    exact ⟨script, hscript, (readScript_ok hread).1⟩

namespace Sample

/-- Two scripts, a directory that is named like one, and a file that is not. -/
def mixed (bytes : ByteArray) : List (String × EntryKind) :=
  [("V002__b.cql", .file bytes), ("V003__old.cql", .other), ("notes.txt", .file "n".toUTF8),
    ("V001__a.cql", .file "SELECT 1;".toUTF8)]

theorem mixed_distinct (bytes : ByteArray) : ((mixed bytes).map (·.1)).Nodup := by
  change ["V002__b.cql", "V003__old.cql", "notes.txt", "V001__a.cql"].Nodup
  decide

/-- Of the files that are scripts by their names, the later one may be no text. -/
theorem unreadable_mixed_iff {bytes : ByteArray} {name : String} :
    Unreadable .standard (mixed bytes) name ↔
      name = "V002__b.cql" ∧ String.fromUTF8? bytes = none := by
  have haccepts : NamingScheme.standard.accepts "V002__b.cql" = true := by decide +kernel
  have hnotes : NamingScheme.standard.accepts "notes.txt" = false := by decide +kernel
  have htext : String.fromUTF8? "SELECT 1;".toUTF8 = some "SELECT 1;" := by decide +kernel
  constructor
  · rintro ⟨hname, content, hmem, hnone⟩
    simp only [mixed, List.mem_cons, Prod.mk.injEq, EntryKind.file.injEq, reduceCtorEq, and_false,
      List.not_mem_nil, or_false, false_or] at hmem
    rcases hmem with ⟨rfl, rfl⟩ | ⟨rfl, rfl⟩ | ⟨rfl, rfl⟩
    · exact ⟨rfl, hnone⟩
    · cases hnotes.symm.trans hname
    · cases htext.symm.trans hnone
  · rintro ⟨rfl, hnone⟩
    exact ⟨haccepts, bytes, List.mem_cons_self, hnone⟩

end Sample

/-- A directory with two scripts, and the same with a script that is no text. -/
theorem discover_exact_sample :
    let items := Sample.mixed "SELECT 2;".toUTF8
    let broken := Sample.mixed ⟨#[0xff]⟩
    (items.map (·.1)).Nodup ∧ (∀ name, ¬ Unreadable .standard items name) ∧
      items.reverse.Perm items ∧
      (discover .standard "cql" (.entries items.reverse)).result =
        (discover .standard "cql" (.entries items)).result ∧
      (∃ scripts, (discover .standard "cql" (.entries items)).result = .ok scripts ∧
        ∃ script ∈ scripts, script.name = "V002__b.cql") ∧
      Unreadable .standard broken "V002__b.cql" ∧
      (discover .standard "cql" (.entries broken)).result =
        .error (.read "cql/V002__b.cql" Files.Fault.notText.message) := by
  intro items broken
  have htext : String.fromUTF8? "SELECT 2;".toUTF8 = some "SELECT 2;" := by decide +kernel
  have hnoText : String.fromUTF8? ⟨#[0xff]⟩ = none := by decide +kernel
  have hreadable : ∀ name, ¬ Unreadable .standard items name := by
    intro name h
    cases htext.symm.trans (Sample.unreadable_mixed_iff.mp h).2
  have hbroken : Unreadable .standard broken "V002__b.cql" :=
    Sample.unreadable_mixed_iff.mpr ⟨rfl, hnoText⟩
  obtain ⟨horder, hfound, -⟩ := discover_exact .standard "cql" (Sample.mixed_distinct _)
  obtain ⟨scripts, hscripts, hone, -⟩ := hfound hreadable
  have hscript := hone "V002__b.cql" _ List.mem_cons_self (by decide +kernel)
  obtain ⟨-, -, hfails⟩ := discover_exact .standard "cql" (Sample.mixed_distinct ⟨#[0xff]⟩)
  obtain ⟨least, hleast, -, herror⟩ := hfails _ hbroken
  obtain rfl := (Sample.unreadable_mixed_iff.mp hleast).1
  exact ⟨Sample.mixed_distinct _, hreadable, List.reverse_perm _,
    horder _ (List.reverse_perm _), ⟨scripts, hscripts, hscript⟩, hbroken, herror⟩

end SchemaMigration
