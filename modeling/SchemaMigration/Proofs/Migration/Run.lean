import SchemaMigration.Proofs.Ledger.Bootstrap
import SchemaMigration.Proofs.Migration.Recording
import SchemaMigration.Proofs.Store.Memory

/-!
# Runs over a store

A run of a job over a directory, in a session that keeps a store. The session may fail at any
statement; what the run has done is read off the store before and after it.

* `Run.base`: the rows that are there when the scripts begin.
* `Run.trace_eq`, `Run.trace_of_bootstrap`: a run with scripts is its bootstrap, what follows, and
  the end of the session.
* `Run.trace_cases`: a run finds no scripts, or goes on to its bootstrap.
* `Run.bootstrap_cases`, `Run.past_cases`: the bootstrap fails and ends the run, or it goes through.
* `Run.outcome_cases`: how a run may end that gets past its bootstrap.
* `Run.accounted`: what the ledger holds after each of its statements.
* `Sample.run`: a run in the store in memory, with some statements refused.
-/

namespace SchemaMigration

/-- A run of a job over a directory, in a session that keeps a store. -/
structure Run (fate : FailedWrite) where
  σ : Type
  session : Session σ
  /-- The store in a state of the session. -/
  view : σ → Store
  start : σ
  job : Job
  listing : Listing
  keeps : session.Keeps fate view job.ledger job.timeout

namespace Run

variable {fate : FailedWrite} (r : Run fate)

/-- What the run comes to. -/
def trace : Trace r.σ MigrationError Report :=
  Task.trace r.session (r.job.run r.listing) r.start

/-- What the bootstrap of the run comes to. -/
def bootstrap : Trace r.σ MigrationError KeyspaceAction :=
  Task.trace r.session
    (r.job.ledger.bootstrap r.job.timeout r.job.config.replication r.job.config.refresh) r.start

/-- The scripts of the directory. -/
def discovered : Except DiscoveryError (List Script) :=
  (discover r.job.naming r.job.config.scriptDirectory r.listing).result

/-- The store before the run. -/
def before : Store :=
  r.view r.start

/-- The store after the run. -/
def after : Store :=
  r.view r.trace.state

/-- The statements of the scripts leave the ledger as it is. -/
def LeavesLedger : Prop :=
  ∀ scripts, r.discovered = .ok scripts → ∀ script ∈ scripts,
    r.session.LeavesLedger r.view r.job.ledger r.job.timeout script

/-- The rows of the ledger when the bootstrap is over: those before the run, or none if the keyspace
is new. -/
def base (action : KeyspaceAction) : List StoredRow :=
  if action = .unchanged then r.job.ledger.storedRows r.before else []

variable {r} {scripts : List Script}

/-- A run with scripts is its bootstrap, what follows it, and the end of the session. -/
theorem trace_eq (hfound : r.discovered = .ok scripts) (hne : scripts ≠ []) :
    let body := r.bootstrap.bind fun action state => r.job.resume r.session scripts action state
    r.trace = ⟨Job.closed body.result (r.session.close body.state).1,
      (r.session.close body.state).2, body.sent⟩ :=
  Job.trace_run r.session r.job hfound hne r.start

/-- Behind a bootstrap that has gone through, the run goes on with the ledger. -/
theorem trace_of_bootstrap (hfound : r.discovered = .ok scripts) (hne : scripts ≠ [])
    {action : KeyspaceAction} (h : r.bootstrap.result = .ok action) :
    let rest := r.job.resume r.session scripts action r.bootstrap.state
    r.trace.sent = r.bootstrap.sent ++ rest.sent ∧ r.after = r.view rest.state ∧
      ∃ error, r.trace.result = Job.closed rest.result error := by
  intro rest
  have htrace := trace_eq hfound hne
  rw [Trace.bind_of_ok h] at htrace
  refine ⟨by rw [htrace], ?_, _, by rw [htrace]⟩
  unfold after
  rw [htrace]
  exact r.keeps.closed rest.state

/-- A run with scripts ends where its bootstrap fails, if it does. -/
theorem bootstrap_cases (hfound : r.discovered = .ok scripts) (hne : scripts ≠ []) :
    (∃ error, r.bootstrap.result = .error error ∧ r.trace.result = .error error ∧
      r.after = r.view r.bootstrap.state) ∨
    ∃ action, r.bootstrap.result = .ok action := by
  rcases hboot : r.bootstrap.result with error | action
  · left
    have htrace := trace_eq hfound hne
    rw [Trace.bind_of_error hboot] at htrace
    refine ⟨error, rfl, ?_, ?_⟩
    · rw [htrace]
      cases (r.session.close r.bootstrap.state).1 <;> rfl
    · unfold after
      rw [htrace]
      exact r.keeps.closed r.bootstrap.state
  · exact .inr ⟨action, rfl⟩

/-- Without scripts a run does nothing. -/
theorem trace_cases (r : Run fate) :
    (r.after = r.before ∧ r.discovered = .ok [] ∧
      ∃ close, r.trace.result = Job.closed (.ok .nothingFound) close) ∨
    (r.after = r.before ∧ ∃ error, r.discovered = .error error ∧
      r.trace.result = .error (.discovery error)) ∨
    ∃ scripts, r.discovered = .ok scripts ∧ scripts ≠ [] := by
  have hclosing := Job.trace_closingAfter r.session (r.job.migrate r.listing) r.start
  have hmigrate := Job.trace_migrate r.session r.job r.listing r.start
  -- what has been discovered decides, before anything is sent
  rcases hfound : r.discovered with error | scripts
  · right; left
    unfold discovered at hfound
    rw [hfound] at hmigrate
    rw [hmigrate] at hclosing
    have htrace : r.trace = _ := hclosing
    refine ⟨?_, error, rfl, ?_⟩
    · unfold after
      rw [htrace]
      exact r.keeps.closed r.start
    · rw [htrace]
      cases (r.session.close r.start).1 <;> rfl
  · by_cases hne : scripts = []
    · left
      unfold discovered at hfound
      rw [hfound, hne] at hmigrate
      rw [hmigrate] at hclosing
      have htrace : r.trace = _ := hclosing
      refine ⟨?_, congrArg Except.ok hne, _, by rw [htrace]; rfl⟩
      unfold after
      rw [htrace]
      exact r.keeps.closed r.start
    · exact .inr (.inr ⟨scripts, rfl, hne⟩)

theorem bootstrap_ending (r : Run fate) :
    r.job.ledger.BootstrapEnding r.job.timeout r.job.config.replication r.job.config.refresh
      r.view r.start r.bootstrap :=
  Ledger.bootstrap_ending r.keeps r.job.config.replication r.job.config.refresh r.start

/-- A bootstrap that has gone through has left the store alone, or it has made a new ledger. -/
theorem past_cases {action : KeyspaceAction} (h : r.bootstrap.result = .ok action) :
    (action = .unchanged ∧ r.job.config.refresh = false ∧
      (r.job.ledger.tables? r.before).getD [] ≠ [] ∧ r.view r.bootstrap.state = r.before) ∨
    (action ≠ .unchanged ∧
      (r.job.config.refresh = true ∨ (r.job.ledger.tables? r.before).getD [] = []) ∧
      r.job.ledger.stored? (r.view r.bootstrap.state) = some ⟨r.job.ledger.checksums, []⟩) := by
  rcases r.bootstrap_ending with ⟨hresult, hrefresh, htables, hsame⟩ |
    ⟨other, hresult, haction, hcause, hstored⟩ | ⟨error, hresult⟩ | ⟨error, hresult⟩
  · exact .inl ⟨Except.ok.inj (h.symm.trans hresult), hrefresh, htables, hsame⟩
  · have hother : action = other := Except.ok.inj (h.symm.trans hresult)
    exact .inr ⟨hother ▸ haction, hcause, hstored⟩
  · cases h.symm.trans hresult
  · cases h.symm.trans hresult

/-- When the bootstrap has gone through, the ledger holds the rows of the base. -/
theorem rowsIn_bootstrap {action : KeyspaceAction} (h : r.bootstrap.result = .ok action) :
    r.job.rowsIn r.view r.bootstrap.state = r.base action := by
  unfold base
  rcases past_cases h with ⟨haction, -, -, hsame⟩ | ⟨haction, -, hstored⟩
  · rw [if_pos haction]
    exact congrArg r.job.ledger.storedRows hsame
  · rw [if_neg haction]
    exact Ledger.storedRows_of_stored? hstored

/-- From an absent keyspace, or one with its ledger, a bootstrap that goes through leads to a
ledger. -/
theorem present_bootstrap (hstanding : r.job.ledger.Standing r.before) {action : KeyspaceAction}
    (h : r.bootstrap.result = .ok action) : r.job.ledger.Present (r.view r.bootstrap.state) := by
  rcases past_cases h with ⟨-, -, htables, hsame⟩ | ⟨-, -, hstored⟩
  · rcases hstanding with habsent | hpresent
    · exact absurd (congrArg (·.getD []) habsent) htables
    · exact hsame.symm ▸ hpresent
  · exact ⟨_, hstored⟩

/-- A run behind its bootstrap ends with an error about the ledger, or with all pending scripts
recorded, or with those before the first that fails. -/
theorem outcome_cases (hleaves : r.LeavesLedger) (hfound : r.discovered = .ok scripts)
    (hne : scripts ≠ []) {action : KeyspaceAction} (hpast : r.bootstrap.result = .ok action) :
    (∃ error, r.trace.result = .error error ∧ error.AboutLedger ∧
      r.job.ledger.storedRows r.after = r.base action) ∨
    (∃ (version : Version) (close : Option SessionError),
      (version : Int) = newestRow (r.base action) ∧
      r.trace.result = Job.closed (.ok (r.job.reportOf scripts action
        (version, pendingAfter (r.base action) scripts))) close ∧
      r.job.ledger.storedRows r.after = r.base action ++
        (pendingAfter (r.base action) scripts).map r.job.ledger.storedRow) ∨
    (∃ applied script rest, pendingAfter (r.base action) scripts = applied ++ script :: rest ∧
      r.trace.StopsAt r.job.timeout (r.job.scriptSteps applied.length script) ∧
      Job.Untouched fate r.job script (r.base action ++ applied.map r.job.ledger.storedRow)
        (r.job.ledger.storedRows r.after)) := by
  obtain ⟨hsent, hafter, close, hresult⟩ := trace_of_bootstrap hfound hne hpast
  have hrows : r.job.ledger.storedRows r.after = _ := congrArg r.job.ledger.storedRows hafter
  have hcases := Job.resume_cases r.keeps (hleaves scripts hfound) action r.bootstrap.state
  rw [rowsIn_bootstrap hpast] at hcases
  rw [hrows]
  rcases hcases with ⟨error, herror, habout, hend⟩ | ⟨version, hversion, hok, hend⟩ |
    ⟨applied, script, rest, hdue, hstops, hend⟩
  · left
    rw [herror] at hresult
    refine ⟨error, ?_, habout, hend⟩
    rw [hresult]
    cases close <;> rfl
  · right; left
    rw [hok] at hresult
    exact ⟨version, close, hversion, hresult, hend⟩
  · right; right
    refine ⟨applied, script, rest, hdue, ?_, hend⟩
    obtain ⟨step, hstep, front, e, hfront, hstatement, hnot, herror⟩ := hstops
    refine ⟨step, hstep, r.bootstrap.sent ++ front, e, ?_, hstatement, hnot, ?_⟩
    · rw [hsent, hfront, List.append_assoc]
    · rw [hresult, herror]
      cases close <;> rfl

/-- A run that gets past its bootstrap leaves a ledger behind. -/
theorem present_after (hspares : ∀ script ∈ scripts,
      r.session.Spares r.view r.job.timeout r.job.ledger.Present script)
    (hfound : r.discovered = .ok scripts) (hne : scripts ≠ []) {action : KeyspaceAction}
    (hpast : r.bootstrap.result = .ok action)
    (hpresent : r.job.ledger.Present (r.view r.bootstrap.state)) :
    r.job.ledger.Present r.after := by
  rw [(trace_of_bootstrap hfound hne hpast).2.1]
  exact Job.present_resume r.keeps hspares action hpresent

/-- Behind the bootstrap the rows of the ledger are accounted for at every moment. -/
theorem accounted {r : Run .undone} (hleaves : r.LeavesLedger) (hfound : r.discovered = .ok scripts)
    (hne : scripts ≠ []) {action : KeyspaceAction} (hpast : r.bootstrap.result = .ok action)
    {front back : List (Exchange r.σ)} {e : Exchange r.σ}
    (hsplit : r.trace.sent = front ++ e :: back)
    (hlength : r.bootstrap.sent.length ≤ front.length) :
    ∃ now, now <+: pendingAfter (r.base action) scripts ∧
      r.job.rowsIn r.view e.after = r.base action ++ now.map r.job.ledger.storedRow ∧
      ∃ done, done <:+: front ++ [e] ∧ r.job.Applied 0 now done := by
  rw [(trace_of_bootstrap hfound hne hpast).1] at hsplit
  rcases append_eq_append_cons hsplit with ⟨middle, hfront, hlater⟩ | ⟨middle, hearlier⟩
  · obtain ⟨now, hnow, hmoment, done, hdone, happlied⟩ :=
      Job.resume_accounted r.keeps (hleaves scripts hfound) action r.bootstrap.state hlater
    rw [rowsIn_bootstrap hpast] at hnow hmoment
    refine ⟨now, hnow, hmoment, done, ?_, happlied⟩
    rw [hfront, List.append_assoc]
    exact hdone.trans (List.suffix_append r.bootstrap.sent _).isInfix
  · -- the statement would belong to the bootstrap
    have htoo : front.length + (middle.length + 1) ≤ front.length := by
      rw [hearlier] at hlength
      simp at hlength
    omega

end Run

/-! ## A sample -/

namespace Sample

/-- A job for the keyspace `orders`. -/
def job : Job :=
  Job.ofConfig {
    database := {}
    scriptDirectory := "cql"
    keyspace := ⟨"orders", by decide⟩
    table := ⟨"migrated_cql", by decide⟩
    refresh := false
    verifyChecksums := false
    timeoutSeconds := 10
    replication := .standard } .cql 0

/-- A directory with two scripts of one version. -/
def listing : Listing :=
  .entries [("V001__a.cql", .file "SELECT 1;".toUTF8), ("V001__b.cql", .file "SELECT 2;".toUTF8)]

/-- The scripts of the directory. -/
def scripts : List Script :=
  [Script.ofContents 1 "V001__a.cql" "cql/V001__a.cql" "SELECT 1;",
    Script.ofContents 1 "V001__b.cql" "cql/V001__b.cql" "SELECT 2;"]

theorem distinct : listing.Distinct := by
  intro items hitems
  rw [← Listing.entries.inj hitems]
  decide

theorem hasColumn : Text.occursIn "checksum".toList job.ledger.createTable.text.toList =
    job.ledger.checksums := by
  decide

/-- A run over the directory in the store in memory, with some statements refused. -/
def run (refuses : Statement → Bool) (start : Store) : Run .undone where
  σ := Store
  session := Store.refusing .cql refuses
  view := id
  start := start
  job := job
  listing := listing
  keeps := Store.refusing_keeps .undone .cql refuses hasColumn job.timeout

theorem grants (start : Store) :
    let r := run (fun _ => false) start
    r.session.Grants r.view r.job.ledger r.job.timeout :=
  Store.session_grants .cql hasColumn job.timeout

theorem discovered (refuses : Statement → Bool) (start : Store) :
    (run refuses start).discovered = .ok scripts := by
  have hcandidates : candidates .standard [("V001__a.cql", .file "SELECT 1;".toUTF8),
      ("V001__b.cql", .file "SELECT 2;".toUTF8)] =
      [("V001__a.cql", "SELECT 1;".toUTF8), ("V001__b.cql", "SELECT 2;".toUTF8)] :=
    List.mergeSort_of_pairwise (by decide)
  have hread : readScripts .standard "cql" [("V001__a.cql", "SELECT 1;".toUTF8),
      ("V001__b.cql", "SELECT 2;".toUTF8)] = .ok scripts := rfl
  change (discover .standard "cql" listing).result = _
  simp only [discover, listing, hcandidates, hread]

/-- A run over the directory comes to what its scripts come to. -/
theorem trace_run (refuses : Statement → Bool) (start : Store) :
    (run refuses start).trace =
      Task.trace (Store.refusing .cql refuses) (job.migrateScripts scripts) start :=
  Job.trace_run_of_closes (Store.refusing .cql refuses) job (fun _ => rfl)
    (discovered refuses start) (List.cons_ne_nil _ _) start

/-- A script of nothing but the statements of the sample leaves the ledger alone. -/
theorem leaves_of_texts (refuses : Statement → Bool) {script : Script}
    (h : ∀ text ∈ script.statements, text = "SELECT 1" ∨ text = "SELECT 2") :
    (Store.refusing .cql refuses).LeavesLedger id job.ledger job.timeout script := by
  intro text htext state
  have hsend : ((Store.refusing .cql refuses).send state
      ((Statement.execute text []).withTimeout job.timeout)).2 = state := by
    simp only [Store.refusing]
    split
    · rfl
    · rcases h text htext with rfl | rfl <;> rfl
  exact congrArg job.ledger.stored? hsend

theorem leavesLedger (refuses : Statement → Bool) (start : Store) :
    (run refuses start).LeavesLedger := by
  intro found hfound script hscript
  rw [discovered] at hfound
  cases hfound
  apply leaves_of_texts
  intro text htext
  have hstatements : scripts.flatMap Script.statements = ["SELECT 1", "SELECT 2"] := by decide
  have htexts := List.mem_flatMap.mpr ⟨script, hscript, htext⟩
  rw [hstatements] at htexts
  simpa using htexts

end Sample

end SchemaMigration
