import SchemaMigration.Proofs.Discovery

/-!
# Directories that grow

What is discovered in a directory to which files have been added. Scripts are discovered in the
order of their names, so newer scripts stand behind those that were there.

* `Listing.Within`: the files of a directory are still there in another one, unchanged.
* `mem_of_within`: so are its scripts.
* `discover_append`: if those added are newer than all the others, they come behind them.
-/

namespace SchemaMigration

variable {naming : NamingScheme} {directory : String} {small large : Listing}
  {old scripts : List Script}

/-- Every file of the first directory is in the second one, unchanged. -/
def Listing.Within (small large : Listing) : Prop :=
  ∀ items, small = .entries items → ∃ more, large = .entries more ∧
    ∀ name bytes, (name, .file bytes) ∈ items → (name, .file bytes) ∈ more

/-- Scripts are discovered in the order of their names. -/
theorem names_sorted_of_discover
    (h : (discover naming directory large).result = .ok scripts) :
    scripts.Pairwise fun a b => a.name ≤ b.name := by
  rcases discover_cases h with rfl | ⟨items, -, hread⟩
  · exact .nil
  · have hnames := names_of_readScripts hread
    have hsorted : (scripts.map (·.name)).Pairwise (· ≤ ·) := by
      rw [hnames, List.pairwise_map]
      exact candidates_sorted naming items
    exact List.pairwise_map.mp hsorted

/-- What was discovered in a directory is still discovered when files have been added. -/
theorem mem_of_within (hold : (discover naming directory small).result = .ok old)
    (hscripts : (discover naming directory large).result = .ok scripts)
    (hwithin : small.Within large) {script : Script} (h : script ∈ old) : script ∈ scripts := by
  rcases discover_cases hold with rfl | ⟨items, hitems, hread⟩
  · cases h
  · obtain ⟨file, hfile, hok⟩ := exists_file_of_mem hread h
    obtain ⟨more, rfl, hkept⟩ := hwithin items hitems
    obtain ⟨haccepts, hitem⟩ := mem_candidates_iff.mp hfile
    have hcandidate := mem_candidates_iff.mpr ⟨haccepts, hkept file.1 file.2 hitem⟩
    obtain ⟨same, hsame, hread'⟩ :=
      exists_script_of_mem (readScripts_of_entries hscripts) hcandidate
    rwa [Except.ok.inj (hok.symm.trans hread')]

/-- **Growth of a directory.** If files have been added to a directory, and the scripts among them
are newer than all that were there, then these scripts are discovered behind the others. -/
theorem discover_append (hold : (discover naming directory small).result = .ok old)
    (hscripts : (discover naming directory large).result = .ok scripts)
    (hwithin : small.Within large) (hdistinct : large.Distinct) (hdistinct' : small.Distinct)
    (hnewer : ∀ script ∈ scripts, script.name ∉ old.map (·.name) →
      ∀ older ∈ old, older.version < script.version) :
    ∃ added, scripts = old ++ added ∧
      ∀ script ∈ added, ∀ older ∈ old, older.version < script.version := by
  let added := scripts.filter fun script => script.name ∉ old.map (·.name)
  have hadded : ∀ script ∈ added, ∀ older ∈ old, older.version < script.version := by
    intro script hscript
    obtain ⟨hmem, hnew⟩ := List.mem_filter.mp hscript
    exact hnewer script hmem (of_decide_eq_true hnew)
  refine ⟨added, ?_, hadded⟩
  have hnames := names_of_discover hscripts hdistinct
  have hkept : ∀ script ∈ old, script ∈ scripts := fun _ => mem_of_within hold hscripts hwithin
  -- both lists have the same scripts, in the order of their names
  have hperm : scripts.Perm (old ++ added) := by
    rw [List.perm_ext_iff_of_nodup (List.Nodup.of_map _ hnames)]
    · intro script
      rw [List.mem_append, List.mem_filter, decide_eq_true_iff]
      constructor
      · intro hscript
        by_cases hname : script.name ∈ old.map (·.name)
        · obtain ⟨older, holder, hsame⟩ := List.mem_map.mp hname
          left
          rwa [← List.inj_on_of_nodup_map hnames (hkept older holder) hscript hsame]
        · exact .inr ⟨hscript, hname⟩
      · rintro (hscript | ⟨hscript, -⟩)
        · exact hkept script hscript
        · exact hscript
    · rw [List.nodup_append]
      refine ⟨List.Nodup.of_map _ (names_of_discover hold hdistinct'),
        (List.Nodup.of_map _ hnames).filter _, ?_⟩
      rintro script hscript other hother rfl
      exact of_decide_eq_true (List.mem_filter.mp hother).2 (List.mem_map_of_mem hscript)
  refine hperm.eq_of_pairwise ?_ (names_sorted_of_discover hscripts) ?_
  · intro a b ha hb hab hba
    exact List.inj_on_of_nodup_map hnames ha (hperm.mem_iff.mpr hb) (String.le_antisymm hab hba)
  · rw [List.pairwise_append]
    refine ⟨names_sorted_of_discover hold, (names_sorted_of_discover hscripts).filter _, ?_⟩
    intro older holder script hscript
    -- by the order of names the newer script cannot stand in front
    rcases String.le_total older.name script.name with hle | hle
    · exact hle
    · have hfirst := holds_of_discover hscripts (List.mem_of_mem_filter hscript)
      have hsecond := holds_of_discover hscripts (hkept older holder)
      have hversions := NamingScheme.version_mono hfirst.1 hsecond.1 hfirst.2.1 hsecond.2.1 hle
      exact absurd (hadded script hscript older holder) (Nat.not_lt.mpr hversions)

end SchemaMigration
