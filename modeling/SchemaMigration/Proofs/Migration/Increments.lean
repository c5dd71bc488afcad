import SchemaMigration.Proofs.Discovery.Growth
import SchemaMigration.Proofs.Migration.Agenda
import SchemaMigration.Proofs.Migration.AtMostOnce
import SchemaMigration.Proofs.Migration.Resumption

/-!
# Increments

A directory of scripts grows, and a run is made each time. If the scripts that are added are always
newer than all that were there, the runs come to what a single run over the last directory comes to:
the statements of the scripts, in the same order, and the rows of the ledger.

* `Run.Completes`: a run of a job that succeeds, without a refresh.
* `Run.Completes.adds`: it applies what is newer than the rows that it finds, and nothing else.
* `Run.Extends`: a run over a directory that has grown by newer scripts.
* `Run.increments_of_history`: what runs over growing directories have done after each of them.
* `Run.increments_eq_batch`: it is what a single run does.
-/

namespace SchemaMigration

/-! ## Statements of scripts -/

/-- The statement is a part of a script. -/
def Purpose.isScript : Purpose → Bool
  | .script _ => true
  | _ => false

/-- The statements of a script as they are sent. -/
def Script.sent (timeout : Nat) (script : Script) : List Statement :=
  script.statements.map fun text => (Statement.execute text []).withTimeout timeout

theorem map_filter_zip {α β γ : Type} {f : α → γ} {g : β → γ} (p : β → Bool) {first : List α}
    {second : List β} (h : first.map f = second.map g) :
    ((first.zip second).filter fun q => p q.2).map (fun q => f q.1) = (second.filter p).map g := by
  induction second generalizing first with
  | nil => simp
  | cons b second ih =>
      cases first with
      | nil => simp at h
      | cons a first =>
          obtain ⟨hhead, htail⟩ := List.cons.inj h
          by_cases hp : p b = true <;> simp [hp, hhead, ih htail]

namespace Job

variable {job : Job}

theorem scripts_dueAgenda (number : Nat) (due : List Script) :
    ((job.dueAgenda number due).filter fun item => item.purpose.isScript).map
        (fun item => item.statement.withTimeout job.timeout) =
      due.flatMap (Script.sent job.timeout) := by
  induction due generalizing number with
  | nil => rfl
  | cons script due ih =>
      rw [dueAgenda, List.filter_append, List.map_append, ih, List.flatMap_cons]
      congr 1
      simp [scriptAgenda, Purpose.isScript, Script.sent, List.filter_map, Function.comp_def]

/-- What stands on the agenda for scripts are the statements of those that are due. -/
theorem scripts_agenda (scripts : List Script) (tables rows : List Row) :
    ((job.agenda scripts tables rows).filter fun item => item.purpose.isScript).map
        (fun item => item.statement.withTimeout job.timeout) =
      (job.dueScripts scripts rows).flatMap (Script.sent job.timeout) := by
  have hopening : (job.openingAgenda tables).filter (fun item => item.purpose.isScript) = [] := by
    simp [openingAgenda, Purpose.isScript, List.filter_map, Function.comp_def]
  rw [agenda, List.filter_append, hopening, List.nil_append,
    List.filter_cons_of_neg (by simp [Purpose.isScript]), scripts_dueAgenda]

end Job

namespace Run

variable {fate : FailedWrite} {r : Run fate}

/-- The statements of scripts that a run has sent. -/
def scriptStatements (r : Run fate) : List Statement :=
  ((r.trace.sent.zip (r.job.agendaOf r.listing r.trace.sent)).filter
    fun p => p.2.purpose.isScript).map fun p => p.1.statement

/-! ## One run -/

/-- A run that succeeds does what is due for the rows behind its bootstrap. -/
theorem dueScripts_of_ok {scripts : List Script} (hfound : r.discovered = .ok scripts)
    (hne : scripts ≠ []) {report : Report} (hok : r.trace.result = .ok report) :
    r.job.dueScripts scripts (answered r.job.timeout r.job.ledger.selectRows r.trace.sent) =
      pendingAfter (r.job.rowsIn r.view r.bootstrap.state) scripts := by
  rcases bootstrap_cases hfound hne with ⟨error, -, herror, -⟩ | ⟨action, hpast⟩
  · cases hok.symm.trans herror
  · obtain ⟨hsent, -, close, hresult⟩ := trace_of_bootstrap hfound hne hpast
    obtain ⟨e, more, hrest, hread, hmore⟩ :=
      Job.sent_resume r.keeps scripts action r.bootstrap.state
    rcases hmore with ⟨-, error, herror⟩ | ⟨rows, hrows, hdue⟩
    · rw [hok, herror, Job.closed_error] at hresult
      cases hresult
    · have hothers : ∀ f ∈ r.bootstrap.sent,
          f.statement ≠ r.job.ledger.selectRows.withTimeout r.job.timeout :=
        (Job.sent_bootstrap r.session r.job r.start []).2.2
      rw [hsent, hrest, answered_append hothers, answered_cons_self hread hrows, hdue]

/-- A run of a job, apart from ids, that does not start the ledger anew and succeeds. Its scripts
leave the ledger alone, and its directory has no two entries of one name, as any directory has. -/
structure Completes (r : Run fate) (job : Job) : Prop where
  alike : r.job.Alike job
  refresh : r.job.config.refresh = false
  distinct : r.listing.Distinct
  leaves : r.LeavesLedger
  succeeds : ∃ report, r.trace.result = .ok report

namespace Completes

variable {job : Job}

theorem discovered (h : r.Completes job) : r.discovered = .ok r.found := by
  obtain ⟨report, hok⟩ := h.succeeds
  rcases r.trace_cases with ⟨-, hfound, -⟩ | ⟨-, error, -, herror⟩ | ⟨scripts, hfound, -⟩
  · rw [found_of_ok hfound, hfound]
  · cases hok.symm.trans herror
  · rw [found_of_ok hfound, hfound]

end Completes

/-- A run that succeeds applies the scripts that are newer than the rows it finds, in order, and
nothing else. -/
theorem Completes.adds {job : Job} (h : r.Completes job) :
    let due := pendingAfter (r.job.ledger.storedRows r.before) r.found
    r.job.ledger.storedRows r.after =
        r.job.ledger.storedRows r.before ++ due.map r.job.ledger.storedRow ∧
      r.scriptStatements = due.flatMap (Script.sent r.job.timeout) := by
  intro due
  obtain ⟨report, hok⟩ := h.succeeds
  by_cases hbegins : r.Begins
  · have hkept := (rows_behind_bootstrap hbegins (not_drops_of_refresh h.refresh)).1
    obtain ⟨scripts, hfound, hne⟩ := hbegins
    have hdue : due = pendingAfter (r.job.ledger.storedRows r.before) scripts := by
      simp only [due, found_of_ok hfound]
    have hover : r.Over r.job.ledger scripts := ⟨rfl, hfound, h.refresh, h.leaves⟩
    obtain ⟨action, hpast, hrows⟩ := hover.rows_of_ok hne hok
    rw [← rowsIn_bootstrap hpast, hkept] at hrows
    refine ⟨by rw [hrows, hdue], ?_⟩
    -- all of the agenda has been sent
    have hclosing : r.trace = _ :=
      Job.trace_closingAfter r.session (r.job.migrate r.listing) r.start
    have hsent : (Task.trace r.session (r.job.migrate r.listing) r.start).sent = r.trace.sent :=
      (congrArg Trace.sent hclosing).symm
    have hplan := Job.migrate_failFast_agenda r.session r.job r.listing r.start
    rw [hsent] at hplan
    have hall := hplan.completes (Job.run_strict r.session r.job r.listing r.start report hok)
    rw [scriptStatements, map_filter_zip (fun item => item.purpose.isScript) hall,
      Job.agendaOf_of_found hfound hne, Job.scripts_agenda, dueScripts_of_ok hfound hne hok, hkept,
      hdue]
  · -- no script was found, and nothing has been sent
    obtain ⟨hsent, hafter⟩ := idle_of_not_begins hbegins
    have hnone : r.found = [] := by
      by_contra hne
      obtain ⟨script, hscript⟩ := List.exists_mem_of_ne_nil _ hne
      exact hbegins ⟨r.found, discovered_of_mem_found hscript, hne⟩
    have hdue : due = [] := by simp only [due, hnone, pendingAfter, List.filter_nil]
    simp [hdue, hafter, scriptStatements, hsent]

/-! ## Runs over growing directories -/

/-- A run over a directory that has grown since an earlier run: no file has changed, and each script
that was not there is newer than all that were. -/
structure Extends (later earlier : Run fate) : Prop where
  within : earlier.listing.Within later.listing
  newer : ∀ script ∈ later.found, script.name ∉ earlier.found.map (·.name) →
    ∀ older ∈ earlier.found, older.version < script.version

/-- The scripts that are added are found behind the others. -/
theorem Extends.found_eq {later earlier : Run fate} (h : later.Extends earlier) {job : Job}
    (hlater : later.Completes job) (hearlier : earlier.Completes job) :
    ∃ added, later.found = earlier.found ++ added ∧
      ∀ script ∈ added, ∀ older ∈ earlier.found, older.version < script.version := by
  have hold := hearlier.discovered
  have hall := hlater.discovered
  unfold discovered at hold hall
  rw [hearlier.alike.naming, hearlier.alike.config] at hold
  rw [hlater.alike.naming, hlater.alike.config] at hall
  exact discover_append hold hall h.within hlater.distinct hearlier.distinct h.newer

/-- Runs of a job, latest first, each over a directory that has grown since the one before. From an
absent keyspace they have applied every script above version zero that was found last, in order. -/
theorem increments_of_history {job : Job} {last : Run fate} {earlier : List (Run fate)}
    {start s : Store} (habsent : job.ledger.tables? start = none)
    (hhistory : History job.ledger start (last :: earlier) s)
    (hgrowing : (last :: earlier).IsChain Extends)
    (hcomplete : ∀ r ∈ last :: earlier, r.Completes job) :
    job.ledger.storedRows s = (pendingAfter [] last.found).map job.ledger.storedRow ∧
      (last :: earlier).reverse.flatMap scriptStatements =
        (pendingAfter [] last.found).flatMap (Script.sent job.timeout) := by
  -- the rows before the latest run are those of the scripts that the run before it had found
  induction earlier generalizing last s with
  | nil =>
      have hlast := hcomplete last (List.mem_singleton_self last)
      obtain ⟨hrows, hstatements⟩ := hlast.adds
      cases hhistory with
      | run _ _ hbefore =>
          cases hbefore
          have hempty : job.ledger.storedRows last.before = [] :=
            Ledger.storedRows_of_none (Ledger.stored?_of_tables?_none habsent)
          rw [hlast.alike.ledger, hempty, List.nil_append] at hrows
          rw [hlast.alike.ledger, hlast.alike.timeout, hempty] at hstatements
          exact ⟨hrows, by simpa using hstatements⟩
  | cons previous earlier ih =>
      have hlast := hcomplete last List.mem_cons_self
      have hprevious := hcomplete previous (by simp)
      obtain ⟨hgrown, hgrowing⟩ := List.isChain_cons_cons.mp hgrowing
      obtain ⟨added, hfound, hnewer⟩ := hgrown.found_eq hlast hprevious
      cases hhistory with
      | run _ _ hbefore =>
          obtain ⟨hrowsBefore, hstatementsBefore⟩ :=
            ih hbefore hgrowing fun r hr => hcomplete r (List.mem_cons_of_mem _ hr)
          obtain ⟨hrows, hstatements⟩ := hlast.adds
          rw [hlast.alike.ledger, hrowsBefore] at hrows hstatements
          rw [hlast.alike.timeout] at hstatements
          -- what is due now is what has been added
          have hsplit : pendingAfter [] last.found =
              pendingAfter [] previous.found ++ pendingAfter [] added := by
            simp only [hfound, pendingAfter, List.filter_append]
          have hdue : pendingAfter ((pendingAfter [] previous.found).map job.ledger.storedRow)
              last.found = pendingAfter [] added := by
            rw [pendingAfter_recorded hsplit, List.filter_eq_self]
            intro script hscript
            simp only [decide_eq_true_eq]
            intro older holder
            exact hnewer script (List.mem_of_mem_filter hscript) older
              (List.mem_of_mem_filter holder)
          rw [hdue] at hrows hstatements
          refine ⟨by rw [hrows, hsplit, List.map_append], ?_⟩
          rw [List.reverse_cons, List.flatMap_append, hstatementsBefore, List.flatMap_singleton,
            hstatements, hsplit, List.flatMap_append]

/-- **Incremental equals batch.** Runs of a job over a directory that grows by newer scripts each
time, from an absent keyspace, send the statements of scripts that a single run over the last
directory sends from an absent keyspace, in the same order, and leave the same rows in the
ledger. -/
theorem increments_eq_batch {last whole : Run fate} {earlier : List (Run fate)} {start s : Store}
    (hhistory : History whole.job.ledger start (last :: earlier) s)
    (hgrowing : (last :: earlier).IsChain Extends)
    (hcomplete : ∀ r ∈ whole :: last :: earlier, r.Completes whole.job)
    (habsent : whole.job.ledger.tables? start = none)
    (habsent' : whole.job.ledger.tables? whole.before = none)
    (hlisting : whole.listing = last.listing) :
    (last :: earlier).reverse.flatMap scriptStatements = whole.scriptStatements ∧
      whole.job.ledger.storedRows s = whole.job.ledger.storedRows whole.after := by
  obtain ⟨hwhole, hruns⟩ := List.forall_mem_cons.mp hcomplete
  obtain ⟨hrows, hstatements⟩ := increments_of_history habsent hhistory hgrowing hruns
  -- the single run is a history of its own, over the same scripts
  have halone : History whole.job.ledger whole.before [whole] whole.after :=
    .run whole ⟨rfl, rfl⟩ .none
  obtain ⟨hrows', hstatements'⟩ := increments_of_history habsent' halone (.singleton whole)
    (by simpa using hwhole)
  have hlast := hruns last List.mem_cons_self
  have hfound : whole.found = last.found := by
    unfold found discovered
    rw [hlisting, hlast.alike.naming, hlast.alike.config]
  rw [hrows, hstatements, hrows', ← hfound]
  exact ⟨by simpa using hstatements'.symm, rfl⟩

end Run

/-! ## A sample -/

namespace Sample

/-- A directory with one script. -/
def begun : Listing :=
  .entries [("V001__a.cql", .file "SELECT 1;".toUTF8)]

/-- The directory with a newer script added. -/
def grown : Listing :=
  .entries [("V001__a.cql", .file "SELECT 1;".toUTF8), ("V002__b.cql", .file "SELECT 2;".toUTF8)]

/-- The scripts of the directory that has grown. -/
def grownScripts : List Script :=
  [Script.ofContents 1 "V001__a.cql" "cql/V001__a.cql" "SELECT 1;",
    Script.ofContents 2 "V002__b.cql" "cql/V002__b.cql" "SELECT 2;"]

/-- A run over some directory in the store in memory. -/
def runOver (listing : Listing) (start : Store) : Run .undone :=
  { run (fun _ => false) start with listing := listing }

theorem discovered_begun (start : Store) :
    (runOver begun start).discovered = .ok (grownScripts.take 1) := by
  have hcandidates : candidates .standard [("V001__a.cql", .file "SELECT 1;".toUTF8)] =
      [("V001__a.cql", "SELECT 1;".toUTF8)] :=
    List.mergeSort_of_pairwise (by decide)
  have hread : readScripts .standard "cql" [("V001__a.cql", "SELECT 1;".toUTF8)] =
      .ok (grownScripts.take 1) := rfl
  change (discover .standard "cql" begun).result = _
  simp only [discover, begun, hcandidates, hread]

theorem discovered_grown (start : Store) : (runOver grown start).discovered = .ok grownScripts := by
  have hcandidates : candidates .standard [("V001__a.cql", .file "SELECT 1;".toUTF8),
      ("V002__b.cql", .file "SELECT 2;".toUTF8)] =
      [("V001__a.cql", "SELECT 1;".toUTF8), ("V002__b.cql", "SELECT 2;".toUTF8)] :=
    List.mergeSort_of_pairwise (by decide)
  have hread : readScripts .standard "cql" [("V001__a.cql", "SELECT 1;".toUTF8),
      ("V002__b.cql", "SELECT 2;".toUTF8)] = .ok grownScripts := rfl
  change (discover .standard "cql" grown).result = _
  simp only [discover, grown, hcandidates, hread]

/-- A run over a directory comes to what its scripts come to. -/
theorem trace_runOver {listing : Listing} {start : Store} {scripts : List Script}
    (hfound : (runOver listing start).discovered = .ok scripts) (hne : scripts ≠ []) :
    (runOver listing start).trace =
      Task.trace (Store.refusing .cql fun _ => false) (job.migrateScripts scripts) start :=
  Job.trace_run_of_closes (Store.refusing .cql fun _ => false) job (fun _ => rfl) hfound hne start

theorem completes_of_discovered {listing : Listing} {start : Store} {scripts : List Script}
    (hfound : (runOver listing start).discovered = .ok scripts) (hsub : scripts ⊆ grownScripts)
    (hdistinct : listing.Distinct)
    (hok : ∃ report, (runOver listing start).trace.result = .ok report) :
    (runOver listing start).Completes job where
  alike := rfl
  refresh := rfl
  distinct := hdistinct
  leaves := by
    intro found hfound' script hscript
    obtain rfl : scripts = found := Except.ok.inj (hfound.symm.trans hfound')
    apply leaves_of_texts
    intro text htext
    have hstatements : grownScripts.flatMap Script.statements = ["SELECT 1", "SELECT 2"] := by
      decide
    have htexts := List.mem_flatMap.mpr ⟨script, hsub hscript, htext⟩
    rw [hstatements] at htexts
    simpa using htexts
  succeeds := hok

/-- The first run leaves a row. -/
theorem begun_run :
    let r := runOver begun Store.empty
    r.after = halfway ∧
      r.trace.result = .ok ⟨1, some .created, 0, [⟨1, "V001__a.cql", none⟩]⟩ := by
  intro r
  unfold Run.after
  rw [trace_runOver (discovered_begun Store.empty) (by decide)]
  decide +kernel

theorem begun_completes : (runOver begun Store.empty).Completes job := by
  refine completes_of_discovered (discovered_begun _) (by simp [grownScripts]) ?_
    ⟨_, begun_run.2⟩
  intro items hitems
  rw [← Listing.entries.inj hitems]
  decide

theorem grown_completes {start : Store} (h : start = Store.empty ∨ start = halfway) :
    (runOver grown start).Completes job := by
  refine completes_of_discovered (discovered_grown _) (List.Subset.refl _) ?_ ?_
  · intro items hitems
    rw [← Listing.entries.inj hitems]
    decide
  · rw [trace_runOver (discovered_grown start) (by decide)]
    rcases h with rfl | rfl
    · exact ⟨⟨2, some .created, 0, [⟨1, "V001__a.cql", none⟩, ⟨2, "V002__b.cql", none⟩]⟩,
        by decide +kernel⟩
    · exact ⟨⟨2, some .unchanged, 1, [⟨2, "V002__b.cql", none⟩]⟩, by decide +kernel⟩

theorem grown_extends (start start' : Store) :
    (runOver grown start).Extends (runOver begun start') where
  within := by
    intro items hitems
    refine ⟨_, rfl, ?_⟩
    rw [← Listing.entries.inj hitems]
    intro name bytes hmem
    exact List.mem_cons.mpr (.inl (List.mem_singleton.mp hmem))
  newer := by
    rw [Run.found_of_ok (discovered_grown start), Run.found_of_ok (discovered_begun start')]
    decide

end Sample

/-- Two runs over a directory that grows, and one run over all of it. -/
theorem Run.increments_eq_batch_sample :
    let first := Sample.runOver Sample.begun Store.empty
    let second := Sample.runOver Sample.grown Sample.halfway
    let whole := Sample.runOver Sample.grown Store.empty
    History Sample.job.ledger Store.empty [second, first] second.after ∧
      (∀ r ∈ [whole, second, first], r.Completes Sample.job) ∧ [second, first].IsChain Extends ∧
      [second, first].reverse.flatMap scriptStatements = whole.scriptStatements ∧
      Sample.job.ledger.storedRows second.after = Sample.job.ledger.storedRows whole.after := by
  intro first second whole
  have hbefore : second.before = first.after := Sample.begun_run.1.symm
  have hfirst : History Sample.job.ledger Store.empty [first] second.before :=
    hbefore ▸ .run first ⟨rfl, rfl⟩ .none
  have hhistory : History Sample.job.ledger Store.empty [second, first] second.after :=
    .run second ⟨rfl, rfl⟩ hfirst
  have hcomplete : ∀ r ∈ [whole, second, first], r.Completes Sample.job := by
    simp only [List.forall_mem_cons, List.not_mem_nil, false_implies, implies_true, and_true]
    exact ⟨Sample.grown_completes (.inl rfl), Sample.grown_completes (.inr rfl),
      Sample.begun_completes⟩
  have hgrowing : [second, first].IsChain Extends :=
    .cons_cons (Sample.grown_extends _ _) (.singleton first)
  have hbatch := @increments_eq_batch _ second whole [first] _ _ hhistory hgrowing hcomplete rfl
    rfl rfl
  exact ⟨hhistory, hcomplete, hgrowing, hbatch⟩

end SchemaMigration
