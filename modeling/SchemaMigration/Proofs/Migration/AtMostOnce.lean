import SchemaMigration.Proofs.Migration.Attribution

/-!
# No script is applied twice

The name of a script tells its version, and a run applies what is newer than every row. So a name
with a row is never due again, even if files come and go between the runs, or if nobody knows
whether a row has been written.

* `WellNamed`: rows with names of their own, each with the version in its name.
* `Run.Regular.moments`: a run that does not start the ledger anew keeps the rows well-named at
  every moment.
* `Run.Regular.not_sendsFor`: it sends nothing for a script that has a row.
* `Run.at_most_once`: the same for any number of runs.
-/

namespace SchemaMigration

/-- Rows of scripts, each under a name of its own and with the version in that name. -/
structure WellNamed (naming : NamingScheme) (rows : List StoredRow) : Prop where
  names : (rows.map (·.name)).Nodup
  versions : ∀ row ∈ rows, ∃ version : Version, naming.version row.name = .ok version ∧
    row.version = version

namespace WellNamed

variable {naming : NamingScheme} {rows : List StoredRow} {scripts : List Script}

theorem nil (naming : NamingScheme) : WellNamed naming [] :=
  ⟨List.nodup_nil, by simp⟩

/-- A script that is newer than every row has a new name: its version would be that of the row. -/
theorem name_ne_of_pending (h : WellNamed naming rows) {script : Script}
    (hversion : naming.version script.name = .ok script.version)
    (hpending : script ∈ pendingAfter rows scripts) {row : StoredRow} (hrow : row ∈ rows) :
    row.name ≠ script.name := by
  intro hname
  -- the name tells the version, so the script would be as new as the row and not newer
  obtain ⟨version, hrowName, hrowVersion⟩ := h.versions row hrow
  rw [hname, hversion] at hrowName
  have hsame : script.version = version := Except.ok.inj hrowName
  have hnewer : newestRow rows < script.version :=
    of_decide_eq_true (List.mem_filter.mp hpending).2
  have hle : row.version ≤ newestRow rows := version_le_newestRow hrow
  rw [hrowVersion, ← hsame] at hle
  omega

/-- Rows stay well-named when those of pending scripts are added. -/
theorem append (h : WellNamed naming rows) (l : Ledger)
    (hversions : ∀ script ∈ scripts, naming.version script.name = .ok script.version)
    (hnames : (scripts.map (·.name)).Nodup) {added : List Script}
    (hadded : added <+: pendingAfter rows scripts) :
    WellNamed naming (rows ++ added.map l.storedRow) := by
  have hmem : ∀ script ∈ added, script ∈ pendingAfter rows scripts := fun _ h => hadded.subset h
  have hversion : ∀ script ∈ added, naming.version script.name = .ok script.version := by
    intro script hscript
    exact hversions script (List.mem_of_mem_filter (hmem script hscript))
  have hrowNames : (added.map l.storedRow).map (·.name) = added.map (·.name) := by
    rw [List.map_map]
    rfl
  refine ⟨?_, ?_⟩
  · -- names are distinct among the old rows, among the new ones, and between the two
    rw [List.map_append, hrowNames, List.nodup_append]
    refine ⟨h.names, ?_, ?_⟩
    · exact hnames.sublist ((hadded.sublist.trans List.filter_sublist).map _)
    · intro name hname other hother
      obtain ⟨row, hrow, rfl⟩ := List.mem_map.mp hname
      obtain ⟨script, hscript, rfl⟩ := List.mem_map.mp hother
      exact h.name_ne_of_pending (hversion script hscript) (hmem script hscript) hrow
  · intro row hrow
    rcases List.mem_append.mp hrow with hrow | hrow
    · exact h.versions row hrow
    · obtain ⟨script, hscript, rfl⟩ := List.mem_map.mp hrow
      exact ⟨script.version, hversion script hscript, rfl⟩

end WellNamed

namespace Run

variable {fate : FailedWrite} {r : Run fate} {l : Ledger} {naming : NamingScheme}

theorem version_of_found {script : Script} (h : script ∈ r.found) :
    r.job.naming.version script.name = .ok script.version :=
  (holds_of_discover (discovered_of_mem_found h) h).2.1

theorem names_of_found (hdistinct : r.listing.Distinct) : (r.found.map (·.name)).Nodup := by
  rcases hfound : r.found with _ | ⟨script, others⟩
  · exact List.nodup_nil
  · rw [← hfound]
    have hmem : script ∈ r.found := by simp [hfound]
    exact names_of_discover (discovered_of_mem_found hmem) hdistinct

/-! ## One run -/

/-- A run that does not start the ledger anew, for scripts named in one way, which leave the ledger
alone. Its directory has no two entries of one name, as any directory has. -/
structure Regular (r : Run fate) (naming : NamingScheme) : Prop where
  naming : r.job.naming = naming
  refresh : r.job.config.refresh = false
  distinct : r.listing.Distinct
  leaves : r.LeavesLedger

namespace Regular

/-- At every moment of the run the rows are well-named, and none of them gets lost. -/
theorem moments (h : r.Regular naming)
    (hbefore : WellNamed naming (r.job.ledger.storedRows r.before)) :
    ∀ s ∈ r.moments, WellNamed naming (r.job.ledger.storedRows s) ∧
      r.job.ledger.storedRows s <+: r.job.ledger.storedRows r.after := by
  obtain ⟨added, hadded, hend, hmoments⟩ := growth h.leaves (not_drops_of_refresh h.refresh)
  intro s hs
  obtain ⟨now, hnow, hrows⟩ := hmoments s hs
  rw [hrows, hend]
  refine ⟨?_, (List.prefix_append_right_inj _).mpr (hnow.map _)⟩
  refine hbefore.append r.job.ledger ?_ (names_of_found h.distinct) (hnow.trans hadded)
  intro script hscript
  rw [← h.naming]
  exact version_of_found hscript

/-- The run sends nothing for a script that has a row. -/
theorem not_sendsFor (h : r.Regular naming)
    (hbefore : WellNamed naming (r.job.ledger.storedRows r.before)) {row : StoredRow}
    (hrow : row ∈ r.job.ledger.storedRows r.before) : ¬ r.SendsFor row.name := by
  intro hsends
  obtain ⟨hbegins, script, hscript, hname⟩ := due_of_sendsFor hsends
  rw [(rows_behind_bootstrap hbegins (not_drops_of_refresh h.refresh)).1] at hscript
  have hversion := version_of_found (List.mem_of_mem_filter hscript)
  rw [h.naming] at hversion
  exact hbefore.name_ne_of_pending hversion hscript hrow hname.symm

end Regular

/-! ## Many runs -/

/-- The rows are well-named after the runs, and those of every earlier moment are still there. -/
theorem History.wellNamed {start s : Store} {runs : List (Run fate)} (h : History l start runs s)
    (habsent : l.tables? start = .none) (hregular : ∀ r ∈ runs, r.Regular naming) :
    WellNamed naming (l.storedRows s) ∧
      ∀ r ∈ runs, ∀ m ∈ r.moments, l.storedRows m <+: l.storedRows s := by
  induction h with
  | none =>
      rw [Ledger.storedRows_of_none (Ledger.stored?_of_tables?_none habsent)]
      exact ⟨WellNamed.nil naming, by simp⟩
  | run r hfor before ih =>
      obtain ⟨hthis, hothers⟩ := List.forall_mem_cons.mp hregular
      obtain ⟨hbefore, hearlier⟩ := ih hothers
      rw [← hfor.storedRows_eq] at hbefore
      have hmoments := hthis.moments hbefore
      simp only [hfor.storedRows_eq] at hmoments
      have hlast := hmoments r.after (by simp [Run.moments])
      have hfirst := hmoments r.before (by simp [Run.moments])
      refine ⟨hlast.1, List.forall_mem_cons.mpr ⟨fun m hm => (hmoments m hm).2, ?_⟩⟩
      intro q hq m hm
      exact (hearlier q hq m hm).trans hfirst.2

/-- What some runs, latest first, have done with the scripts of a ledger. -/
structure AtMostOnce (l : Ledger) (naming : NamingScheme) (runs : List (Run fate)) : Prop where
  /-- At no moment two rows have the same name. -/
  names : ∀ r ∈ runs, ∀ s ∈ r.moments, ((l.storedRows s).map (·.name)).Nodup
  /-- At every moment each row has the version in its name. -/
  versions : ∀ r ∈ runs, ∀ s ∈ r.moments, ∀ row ∈ l.storedRows s,
    ∃ version : Version, naming.version row.name = .ok version ∧ row.version = version
  /-- What a run sends are the statements of its first steps, so each has its script. -/
  attributed : ∀ r ∈ runs, r.trace.sent.map (·.statement) <+: r.job.statementsOf r.steps
  /-- When a name has a row at some moment, no later run sends a statement for it. -/
  once : runs.Pairwise fun later earlier => ∀ s ∈ earlier.moments, ∀ row ∈ l.storedRows s,
    ¬ later.SendsFor row.name

/-- **At most once.** However the directory changes between the runs since the keyspace was absent,
and wherever they fail, no script is recorded twice, and none is run again once it is recorded. -/
theorem at_most_once {start s : Store} {runs : List (Run fate)} (habsent : l.tables? start = .none)
    (hhistory : History l start runs s) (hregular : ∀ r ∈ runs, r.Regular naming) :
    AtMostOnce l naming runs := by
  -- from the latest run back: what carries the step is that the rows before it are well-named and
  -- hold those of every earlier moment
  induction hhistory with
  | none => exact ⟨by simp, by simp, by simp, .nil⟩
  | run r hfor before ih =>
      obtain ⟨hthis, hothers⟩ := List.forall_mem_cons.mp hregular
      obtain ⟨hnames, hversions, hattributed, honce⟩ := ih hothers
      obtain ⟨hbefore, hearlier⟩ := before.wellNamed habsent hothers
      rw [← hfor.storedRows_eq] at hbefore
      have hmoments : ∀ s ∈ r.moments, WellNamed naming (l.storedRows s) := by
        intro s hs
        rw [← hfor.storedRows_eq]
        exact (hthis.moments hbefore s hs).1
      refine ⟨?_, ?_, ?_, ?_⟩
      · exact List.forall_mem_cons.mpr ⟨fun s hs => (hmoments s hs).names, hnames⟩
      · exact List.forall_mem_cons.mpr ⟨fun s hs => (hmoments s hs).versions, hversions⟩
      · exact List.forall_mem_cons.mpr ⟨r.sent_follows_steps, hattributed⟩
      · refine List.pairwise_cons.mpr ⟨?_, honce⟩
        intro q hq m hm row hrow
        -- the row is still there when the run starts
        have hstill := (hearlier q hq m hm).subset hrow
        rw [← hfor.storedRows_eq] at hstill
        exact hthis.not_sendsFor hbefore hstill

end Run

theorem Sample.regular (refuses : Statement → Bool) (start : Store) :
    (run refuses start).Regular .standard where
  naming := rfl
  refresh := rfl
  distinct := distinct
  leaves := leavesLedger refuses start

/-- A run that fails at the second of two scripts of one version, and one that goes on. -/
theorem Run.at_most_once_sample :
    let first := Sample.run (fun s => s.text = "SELECT 2") Store.empty
    let second := Sample.run (fun _ => false) first.after
    Sample.job.ledger.tables? Store.empty = .none ∧
      History Sample.job.ledger Store.empty [second, first] second.after ∧
      (∀ r ∈ [second, first], r.Regular .standard) ∧
      AtMostOnce Sample.job.ledger .standard [second, first] := by
  intro first second
  have habsent : Sample.job.ledger.tables? Store.empty = .none := rfl
  have hfirst : History Sample.job.ledger Store.empty [first] second.before :=
    .run first (Sample.forLedger _ _) .none
  have hhistory : History Sample.job.ledger Store.empty [second, first] second.after :=
    .run second (Sample.forLedger _ _) hfirst
  have hregular : ∀ r ∈ [second, first], r.Regular .standard := by
    simp only [List.forall_mem_cons, List.not_mem_nil, false_implies, implies_true, and_true]
    exact ⟨Sample.regular _ _, Sample.regular _ _⟩
  exact ⟨habsent, hhistory, hregular, at_most_once habsent hhistory hregular⟩

end SchemaMigration
