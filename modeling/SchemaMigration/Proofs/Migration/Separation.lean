import SchemaMigration.Proofs.Coupling
import SchemaMigration.Proofs.Migration.Agenda
import SchemaMigration.Proofs.Migration.Renewal
import SchemaMigration.Proofs.Store.Locality

/-!
# Runs on different keyspaces

A run reads and changes its own keyspace only, if its scripts do. So two runs on different keyspaces
may change places: each finds its keyspace as it would have found it without the other.

* `Run.preserves`: what no statement of a run destroys holds at every moment of the run.
* `Run.keeps_elsewhere`: the other keyspaces stay as they are, however the run ends.
* `Run.Twins`: two runs of one job that are told the same wherever their keyspace is the same.
* `Run.Twins.coupled`: they end alike.
* `Run.separate`: two runs on different keyspaces, in either order.
-/

namespace SchemaMigration

namespace Run

variable {fate : FailedWrite} {r : Run fate}

/-- What no request of the ledger and no statement of a script destroys holds at every moment. -/
theorem preserves {P : Store → Prop}
    (hrequests : ∀ request : Ledger.Request,
      (r.job.config.refresh = false → request ≠ .dropKeyspace) →
        r.session.Preserves r.view r.job.timeout P (request.statement r.job.ledger))
    (hscripts : ∀ scripts, r.discovered = .ok scripts → ∀ script ∈ scripts,
      r.session.Spares r.view r.job.timeout P script)
    (hbefore : P r.before) : ∀ s ∈ r.moments, P s := by
  by_cases hbegins : r.Begins
  · obtain ⟨scripts, hfound, hne⟩ := hbegins
    have hroom := version_le_of_discover hfound
    have hbody := Job.trace_migrateScripts r.session r.job scripts hroom r.start
    have hattempt := Job.trace_migrateScripts_eq_attempt r.session r.job hroom r.start
    have htrace := trace_eq hfound hne
    simp only [bootstrap, ← hbody] at htrace
    -- a run attempts its steps, and none of them destroys the property
    have hsteps : ∀ tables rows, ∀ step ∈ r.job.steps scripts tables rows,
        r.session.Preserves r.view r.job.timeout P step.statement := fun tables rows =>
      Job.forall_mem_steps (fun request hdrop _ => hrequests request hdrop)
        (hscripts scripts hfound) tables rows
    have hkept := fun tables rows => r.keeps.attempt_preserves (hsteps tables rows) hbefore
    refine forall_mem_moments.mpr ⟨hbefore, ?_, ?_⟩
    · rw [htrace, hattempt]
      exact (hkept _ _).2
    · unfold after
      rw [htrace, r.keeps.closed, hattempt]
      exact (hkept _ _).1
  · intro s hs
    exact (eq_before_of_not_begins hbegins s hs).symm ▸ hbefore

/-- The statements of the scripts change no other keyspace than that of the run. -/
def StaysInside (r : Run fate) : Prop :=
  ∀ scripts, r.discovered = .ok scripts → ∀ script ∈ scripts,
    ∀ other, other ≠ r.job.config.keyspace.text → ∀ tables,
      r.session.Spares r.view r.job.timeout (fun s => s.keyspace? other = tables) script

/-- **The frame.** Whether a run succeeds or fails, and wherever it fails: every other keyspace is at
every moment as it was before. -/
theorem keeps_elsewhere (hinside : r.StaysInside) {other : String}
    (hother : other ≠ r.job.config.keyspace.text) :
    ∀ s ∈ r.moments, s.keyspace? other = r.before.keyspace? other := by
  apply preserves
  · intro request _
    exact r.keeps.preserves_elsewhere request hother _
  · intro scripts hfound script hscript
    exact hinside scripts hfound script hscript other hother _
  · rfl

end Run

/-! ## Twins -/

namespace Run

variable {fate : FailedWrite}

/-- The keyspace of the run is the same in both states. -/
def SameKeyspace (first second : Run fate) (state : first.σ) (state' : second.σ) : Prop :=
  first.job.ledger.tables? (first.view state) = first.job.ledger.tables? (second.view state')

/-- Wherever the keyspace of the run is the same, the two statements are told the same. -/
def ToldAlike (first second : Run fate) (statement statement' : Statement) : Prop :=
  ∀ state state', first.SameKeyspace second state state' →
    (first.session.send state (statement.withTimeout first.job.timeout)).1.told
        first.job.timeout statement =
      (second.session.send state' (statement'.withTimeout first.job.timeout)).1.told
        first.job.timeout statement'

/-- Wherever the keyspace of the run is the same, the statement makes the same of it. -/
def DoesAlike (first second : Run fate) (statement : Statement) : Prop :=
  ∀ state state', first.SameKeyspace second state state' →
    first.SameKeyspace second
      (first.session.send state (statement.withTimeout first.job.timeout)).2
      (second.session.send state' (statement.withTimeout first.job.timeout)).2

/-- Two runs of one job, apart from the ids of rows, over one directory. How each statement fares is
a matter of the keyspace of the run, and so is what a script makes of it. -/
structure Twins (first second : Run fate) : Prop where
  alike : first.job.Alike second.job
  listing : first.listing = second.listing
  requests : ∀ {request request' : Ledger.Request}, request.Alike request' →
    first.ToldAlike second (request.statement first.job.ledger)
      (request'.statement first.job.ledger)
  scripts : ∀ scripts, first.discovered = .ok scripts → ∀ script ∈ scripts,
    ∀ text ∈ script.statements,
      first.ToldAlike second (.execute text []) (.execute text []) ∧
        first.DoesAlike second (.execute text [])
  closes : ∀ state state', first.SameKeyspace second state state' →
    (first.session.close state).1 = (second.session.close state').1

namespace Twins

variable {first second : Run .undone}

theorem keeps (h : first.Twins second) :
    second.session.Keeps .undone second.view first.job.ledger first.job.timeout := by
  rw [h.alike.ledger, h.alike.timeout]
  exact second.keeps

/-- A request has the same effect wherever it is told the same. -/
theorem couples_request (h : first.Twins second) {request request' : Ledger.Request}
    (halike : request.Alike request') :
    first.session.Couples second.session first.job.timeout (first.SameKeyspace second)
      (request.statement first.job.ledger) (request'.statement first.job.ledger) := by
  intro state state' hsame
  have htold := h.requests halike state state' hsame
  refine ⟨htold, ?_⟩
  unfold SameKeyspace at hsame ⊢
  rw [first.keeps.view_ask, h.keeps.view_ask, first.keeps.tables?_send request state,
    h.keeps.tables?_send request' state', Reply.rows?_of_told htold, halike.effect, hsame]

/-- What a script does is left to its statements. -/
theorem couples_script (h : first.Twins second) {scripts : List Script}
    (hfound : first.discovered = .ok scripts) {script : Script} (hscript : script ∈ scripts)
    {text : String} (htext : text ∈ script.statements) :
    first.session.Couples second.session first.job.timeout (first.SameKeyspace second)
      (.execute text []) (.execute text []) := by
  obtain ⟨htold, hdoes⟩ := h.scripts scripts hfound script hscript text htext
  intro state state' hsame
  refine ⟨htold state state' hsame, ?_⟩
  have hafter := hdoes state state' hsame
  unfold SameKeyspace at hafter ⊢
  rw [first.keeps.view_ask, h.keeps.view_ask]
  exact hafter

theorem couplesStep_request (h : first.Twins second) (request : Ledger.Request)
    (blame : SessionError → MigrationError) :
    first.session.CouplesStep second.session first.job.timeout (first.SameKeyspace second)
      ⟨request.statement first.job.ledger, blame⟩ ⟨request.statement first.job.ledger, blame⟩ :=
  ⟨h.couples_request (.same request), rfl⟩

/-- The bootstraps of the two runs are coupled: they are shown the same tables, so they take the same
steps. -/
theorem coupled_bootstrap (h : first.Twins second) {state : first.σ} {state' : second.σ}
    (hsame : first.SameKeyspace second state state') :
    (Task.trace first.session (first.job.ledger.bootstrap first.job.timeout
        first.job.config.replication first.job.config.refresh) state).Coupled
      (first.SameKeyspace second)
      (Task.trace second.session (second.job.ledger.bootstrap second.job.timeout
        second.job.config.replication second.job.config.refresh) state') := by
  rw [← h.alike.ledger, ← h.alike.timeout, ← h.alike.config, Ledger.trace_bootstrap,
    Ledger.trace_bootstrap]
  have hlisted := Session.ask_coupled (h.couples_request (.same .listTables))
    first.job.ledger.bootstrapError hsame
  refine hlisted.bind fun answer _ => (Session.attempt_coupled ?_ hlisted.state).map _
  apply List.forall₂_same.mpr
  intro step hstep
  obtain ⟨request, rfl, -⟩ := Ledger.request_of_mem_bootstrapSteps hstep
  exact h.couplesStep_request request _

/-- What follows is coupled as well: the runs are shown the same rows, so the same is due. -/
theorem coupled_resume (h : first.Twins second) {scripts : List Script}
    (hfound : first.discovered = .ok scripts) (action : KeyspaceAction) {state : first.σ}
    {state' : second.σ} (hsame : first.SameKeyspace second state state') :
    (first.job.resume first.session scripts action state).Coupled (first.SameKeyspace second)
      (second.job.resume second.session scripts action state') := by
  have hduty : second.job.duty = first.job.duty := by
    unfold Job.duty
    rw [← h.alike.ledger]
  unfold Job.resume
  rw [hduty, ← h.alike.reportOf, ← h.alike.ledger, ← h.alike.timeout]
  have hread := Session.ask_coupled (h.couples_request (.same .selectRows))
    (MigrationError.ledgerRead first.job.ledger.qualified) hsame
  refine hread.bind fun answer _ => ?_
  rcases hdue : first.job.duty scripts answer.rows with error | due
  · exact ⟨rfl, hread.state⟩
  · refine (Session.attempt_coupled ?_ hread.state).map _
    refine Job.forall₂_dueSteps 0 fun script hscript number => Job.forall₂_scriptSteps ?_ ?_
    · intro text htext
      exact ⟨h.couples_script hfound (Job.mem_of_duty hdue hscript) htext, rfl⟩
    · unfold Job.recordStep
      rw [← h.alike.ledger]
      exact ⟨h.couples_request (.insertRow _ _ script), rfl⟩

/-- **Twins.** From stores where their keyspace is the same, the two runs end with the same error or
report, and with the same keyspace. -/
theorem ends_alike (h : first.Twins second)
    (hsame : first.SameKeyspace second first.start second.start) :
    first.trace.result = second.trace.result ∧
      first.job.ledger.tables? first.after = first.job.ledger.tables? second.after := by
  have hdiscovered : second.discovered = first.discovered := by
    unfold discovered
    rw [← h.alike.naming, ← h.alike.config, ← h.listing]
  by_cases hbegins : first.Begins
  · obtain ⟨scripts, hfound, hne⟩ := hbegins
    have hbody := (h.coupled_bootstrap hsame).bind fun action _ =>
      h.coupled_resume hfound action (h.coupled_bootstrap hsame).state
    have htrace := trace_eq hfound hne
    have htrace' := trace_eq (hdiscovered.trans hfound) hne
    refine ⟨?_, ?_⟩
    · rw [htrace, htrace']
      exact congrArg₂ Job.closed hbody.result (h.closes _ _ hbody.state)
    · unfold after
      rw [htrace, htrace', first.keeps.closed, second.keeps.closed]
      exact hbody.state
  · have hidle : ¬ second.Begins := by
      rintro ⟨scripts, hfound, hne⟩
      exact hbegins ⟨scripts, hdiscovered.symm.trans hfound, hne⟩
    refine ⟨?_, ?_⟩
    · rw [result_of_not_begins hbegins, result_of_not_begins hidle, hdiscovered,
        h.closes _ _ hsame]
    · rw [(idle_of_not_begins hbegins).2, (idle_of_not_begins hidle).2]
      exact hsame

end Twins

/-! ## Either order -/

/-- At every moment of the run, every keyspace other than its own is as it was before: whether it
exists, which tables it has, and their rows. -/
def Confined (r : Run fate) : Prop :=
  ∀ s ∈ r.moments, ∀ other, other ≠ r.job.config.keyspace.text →
    s.keyspace? other = r.before.keyspace? other

/-- Two runs on different keyspaces in either order: `a` and then `b`, or `b'` and then `a'`. -/
structure Crossed (a b b' a' : Run .undone) : Prop where
  apart : a.job.config.keyspace.text ≠ b.job.config.keyspace.text
  twins : a.Twins a'
  twins' : b.Twins b'
  inside : ∀ r ∈ [a, b, b', a'], r.StaysInside
  start : b'.before.Same a.before
  then_b : b.before.Same a.after
  then_a : a'.before.Same b'.after

/-- The order of the runs makes no difference to how they end and to the store that they leave. -/
structure Commute (a b b' a' : Run .undone) : Prop where
  outcome : a.trace.result = a'.trace.result
  outcome' : b.trace.result = b'.trace.result
  store : b.after.Same a'.after

theorem StaysInside.after {r : Run fate} (h : r.StaysInside) {other : String}
    (hother : other ≠ r.job.config.keyspace.text) :
    r.after.keyspace? other = r.before.keyspace? other :=
  keeps_elsewhere h hother r.after (by simp [moments])

/-- Each run finds its keyspace as the other order would have it, and it leaves the other's alone. -/
theorem Crossed.commute {a b b' a' : Run .undone} (h : Crossed a b b' a') : Commute a b b' a' := by
  obtain ⟨hina, hinb, hinb', hina'⟩ : a.StaysInside ∧ b.StaysInside ∧ b'.StaysInside ∧
      a'.StaysInside := by simpa using h.inside
  have hkeya : a'.job.config.keyspace.text = a.job.config.keyspace.text := by
    rw [h.twins.alike.config]
  have hkeyb : b'.job.config.keyspace.text = b.job.config.keyspace.text := by
    rw [h.twins'.alike.config]
  -- whoever comes second finds its keyspace as if it came first
  have hfounda : a'.before.keyspace? a.job.config.keyspace.text =
      a.before.keyspace? a.job.config.keyspace.text := by
    rw [h.then_a, hinb'.after (hkeyb ▸ h.apart), h.start]
  have hfoundb : b.before.keyspace? b.job.config.keyspace.text =
      b'.before.keyspace? b.job.config.keyspace.text := by
    rw [h.then_b, hina.after h.apart.symm, h.start]
  obtain ⟨hresulta, haftera⟩ := h.twins.ends_alike hfounda.symm
  obtain ⟨hresultb, hafterb⟩ := h.twins'.ends_alike hfoundb
  refine ⟨hresulta, hresultb, ?_⟩
  intro keyspace
  by_cases hona : keyspace = a.job.config.keyspace.text
  · -- `b` leaves the keyspace of `a` alone
    subst hona
    rw [hinb.after h.apart, h.then_b]
    exact haftera
  · by_cases honb : keyspace = b.job.config.keyspace.text
    · subst honb
      rw [hina'.after (hkeya ▸ h.apart.symm), h.then_a]
      exact hafterb
    · rw [hinb.after honb, h.then_b, hina.after hona, hina'.after (hkeya ▸ hona), h.then_a,
        hinb'.after (hkeyb ▸ honb), h.start]

/-- **Separation.** However a run ends, it leaves every other keyspace alone, and two runs on
different keyspaces come to the same in either order. -/
theorem separate :
    (∀ (fate : FailedWrite) (r : Run fate), r.StaysInside → r.Confined) ∧
      ∀ a b b' a' : Run .undone, Crossed a b b' a' → Commute a b b' a' := by
  refine ⟨?_, fun a b b' a' h => h.commute⟩
  intro fate r hinside s hs other hother
  exact keeps_elsewhere hinside hother s hs

end Run

/-! ## A sample -/

namespace Sample

/-- A run of a job over the directory in the store in memory, with some statements refused. -/
def runOf (job : Job) (hcolumn : Text.occursIn "checksum".toList job.ledger.createTable.text.toList =
    job.ledger.checksums) (refuses : Statement → Bool) (start : Store) : Run .undone where
  σ := Store
  session := Store.refusing .cql refuses
  view := id
  start := start
  job := job
  listing := listing
  keeps := Store.refusing_keeps .undone .cql refuses hcolumn job.timeout

/-- The statements of the sample do nothing, and what they are answered depends on nothing. -/
theorem send_of_text (refuses : Statement → Bool) {text : String}
    (h : text = "SELECT 1" ∨ text = "SELECT 2") (timeout : Nat) : ∃ reply, ∀ s,
      (Store.refusing .cql refuses).send s ((Statement.execute text []).withTimeout timeout) =
        (reply, s) := by
  simp only [Store.refusing]
  split
  · exact ⟨_, fun s => rfl⟩
  · refine ⟨⟨Store.delay text, .ok (.ofRows [])⟩, fun s => ?_⟩
    rcases h with rfl | rfl <;>
      simp [Store.send, Store.perform, Statement.execute, Statement.withTimeout, Store.startsWith,
        Text.strip?, Store.becoming, Except.mapError]

theorem text_of_mem {text : String} (h : text ∈ scripts.flatMap Script.statements) :
    text = "SELECT 1" ∨ text = "SELECT 2" := by
  have hstatements : scripts.flatMap Script.statements = ["SELECT 1", "SELECT 2"] := by decide
  rw [hstatements] at h
  simpa using h

section RunOf

variable {job : Job} {hcolumn : Text.occursIn "checksum".toList
  job.ledger.createTable.text.toList = job.ledger.checksums} {refuses : Statement → Bool}
  {start : Store} (hfound : (runOf job hcolumn refuses start).discovered = .ok scripts)
include hfound

theorem staysInside_runOf : (runOf job hcolumn refuses start).StaysInside := by
  intro found hother script hscript other _ tables text htext state hstate
  cases hfound.symm.trans hother
  obtain ⟨reply, hsend⟩ := send_of_text refuses
    (text_of_mem (List.mem_flatMap.mpr ⟨script, hscript, htext⟩)) job.timeout
  exact (congrArg (fun sent => sent.2.keyspace? other) (hsend state)).trans hstate

/-- Where what is refused is a matter of the text, such a run has its twin on every store. -/
theorem twins_runOf (hrefuses : ∀ first second : Statement, first.text = second.text →
      refuses first = refuses second) (other : Store) :
    (runOf job hcolumn refuses start).Twins (runOf job hcolumn refuses other) where
  alike := rfl
  listing := rfl
  requests := by
    intro request request' halike state state' hsame
    have hsend := Store.refusing_send .cql hcolumn hrefuses halike hsame job.timeout
    exact (congrArg (Reply.told job.timeout _) hsend).trans
      (Reply.told_of_text halike.text job.timeout _)
  scripts := by
    intro found hother script hscript text htext
    cases hfound.symm.trans hother
    obtain ⟨reply, hsend⟩ := send_of_text refuses
      (text_of_mem (List.mem_flatMap.mpr ⟨script, hscript, htext⟩)) job.timeout
    refine ⟨?_, ?_⟩
    · intro state state' _
      exact congrArg (Reply.told job.timeout _)
        ((congrArg Prod.fst (hsend state)).trans (congrArg Prod.fst (hsend state')).symm)
    · intro state state' hsame
      have hkept : ∀ s : Store, job.ledger.tables? ((Store.refusing .cql refuses).send s
          ((Statement.execute text []).withTimeout job.timeout)).2 = job.ledger.tables? s :=
        fun s => congrArg (fun sent => job.ledger.tables? sent.2) (hsend s)
      exact (hkept state).trans (Eq.trans hsame (hkept state').symm)
  closes := fun _ _ _ => rfl

end RunOf

/-- The job for another keyspace. -/
def billing : Job :=
  { job with config := { job.config with keyspace := ⟨"billing", by decide⟩ } }

theorem billing_hasColumn : Text.occursIn "checksum".toList
    billing.ledger.createTable.text.toList = billing.ledger.checksums := by
  decide

theorem discovered_billing (refuses : Statement → Bool) (start : Store) :
    (runOf billing billing_hasColumn refuses start).discovered = .ok scripts :=
  discovered refuses start

end Sample

/-- A run that fails at its second script, and a run on another keyspace. -/
theorem Run.separate_sample :
    let fails : Statement → Bool := fun s => s.text = "SELECT 2"
    let a := Sample.run fails Store.empty
    let b := Sample.runOf Sample.billing Sample.billing_hasColumn (fun _ => false) a.after
    let b' := Sample.runOf Sample.billing Sample.billing_hasColumn (fun _ => false) Store.empty
    let a' := Sample.run fails b'.after
    a.StaysInside ∧ Crossed a b b' a' ∧ a.Confined ∧ Commute a b b' a' := by
  intro fails a b b' a'
  have hfails : ∀ first second : Statement, first.text = second.text →
      fails first = fails second := fun _ _ h => by simp only [fails, h]
  have ha : ∀ start, (Sample.run fails start).StaysInside := fun start =>
    @Sample.staysInside_runOf Sample.job Sample.hasColumn _ _ (Sample.discovered fails start)
  have hb : ∀ start, (Sample.runOf Sample.billing Sample.billing_hasColumn (fun _ => false)
      start).StaysInside := fun start =>
    Sample.staysInside_runOf (Sample.discovered_billing _ start)
  have hcrossed : Crossed a b b' a' := {
    apart := by decide
    twins := @Sample.twins_runOf Sample.job Sample.hasColumn _ _ (Sample.discovered fails _) hfails _
    twins' := Sample.twins_runOf (Sample.discovered_billing _ _) (fun _ _ _ => rfl) _
    inside := by simpa using ⟨ha _, hb _, hb _, ha _⟩
    start := fun _ => rfl
    then_b := fun _ => rfl
    then_a := fun _ => rfl }
  exact ⟨ha _, hcrossed, separate.1 _ a (ha _), separate.2 a b b' a' hcrossed⟩

end SchemaMigration
