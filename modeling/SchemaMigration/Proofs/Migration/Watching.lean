import SchemaMigration.Proofs.Interleaving
import SchemaMigration.Proofs.Migration.Attribution
import SchemaMigration.Proofs.Migration.Idempotence

/-!
# A status next to a run

A status looks whether the keyspace has a table, and then it reads the ledger; a run goes on in the
meantime. This is safe because the ledger is the first table of its keyspace: whoever finds a table
finds the ledger, then and at any later moment of the run.

* `Ledger.ComesFirst`: the ledger can be read as soon as there is a table.
* `Run.comesFirst`: so it is at every moment of a run.
* `Run.readable_of_leads`: a ledger that can be read stays so.
* `Job.status_along`: what a status comes to that finds one store after another.
* `Watched.Turn`: a run and a status take turns, each in a session of its own, on a store they share.
* `Watched.safe`: in whatever order they do, the status succeeds and the run notices nothing.
-/

namespace SchemaMigration

open Relation (ReflTransGen)

/-! ## The ledger is the first table -/

namespace Ledger

variable {l : Ledger} {s s' : Store} {rows : List Row}

/-- If the keyspace has a table, the ledger is there and can be read. -/
def ComesFirst (l : Ledger) (s : Store) : Prop :=
  (l.tables? s).getD [] ≠ [] → l.Readable s

theorem readable_of_stored? {t : StoredTable} (h : l.stored? s = some t)
    (hcolumn : l.checksums = true → t.hasChecksum = true) : l.Readable s :=
  ⟨t.hasChecksum, by rw [shape?, h]; rfl, hcolumn⟩

theorem storedRows_of_no_tables (h : (l.tables? s).getD [] = []) : l.storedRows s = [] := by
  rcases hstored : l.stored? s with _ | t
  · exact storedRows_of_none hstored
  · exact absurd h (Present.tables_ne_nil ⟨t, hstored⟩)

namespace Request

/-- A ledger that can be read stays so unless the keyspace is dropped. -/
theorem readable_of_done {r : Request} (hdrop : r ≠ .dropKeyspace) (h : Done l r s rows s')
    (hreadable : l.Readable s) : l.Readable s' := by
  cases r with
  | listTables => exact (done_listTables h).1 ▸ hreadable
  | dropKeyspace => exact absurd rfl hdrop
  | createKeyspace replication =>
      -- the keyspace would have to be absent
      have habsent := congrArg (·.getD []) (done_createKeyspace h).1
      exact absurd habsent hreadable.present.tables_ne_nil
  | createTable => exact readable_of_stored? (done_createTable h).2.2 id
  | selectRows => exact (done_selectRows h).1 ▸ hreadable
  | insertRow id script =>
      obtain ⟨t, -, hcolumn, hstored⟩ := done_insertRow h
      exact readable_of_stored? hstored hcolumn

/-- No request makes a table before the ledger. -/
theorem comesFirst_of_done {r : Request} (h : Done l r s rows s') (hfirst : l.ComesFirst s) :
    l.ComesFirst s' := by
  intro htables
  cases r with
  | listTables =>
      obtain rfl := (done_listTables h).1
      exact hfirst htables
  | dropKeyspace => exact absurd (congrArg (·.getD []) (done_dropKeyspace h).2) htables
  | createKeyspace replication =>
      exact absurd (congrArg (·.getD []) (done_createKeyspace h).2) htables
  | createTable => exact readable_of_stored? (done_createTable h).2.2 id
  | selectRows =>
      obtain rfl := (done_selectRows h).1
      exact hfirst htables
  | insertRow id script =>
      obtain ⟨t, -, hcolumn, hstored⟩ := done_insertRow h
      exact readable_of_stored? hstored hcolumn

end Request

end Ledger

/-! ## The moments of a run -/

namespace Run

variable {fate : FailedWrite} {r : Run fate}

/-- At every moment of a run the ledger comes first. -/
theorem comesFirst (hleaves : r.LeavesLedger) (hbefore : r.job.ledger.ComesFirst r.before) :
    ∀ s ∈ r.moments, r.job.ledger.ComesFirst s := by
  by_cases hbegins : r.Begins
  · obtain ⟨scripts, hfound, hne⟩ := hbegins
    obtain ⟨hend, hmoments⟩ := Ledger.bootstrap_preserves r.keeps
      (fun request => r.keeps.preserves_of_done Ledger.Request.comesFirst_of_done)
      r.job.config.replication r.job.config.refresh hbefore
    rcases hboot : r.bootstrap.result with error | action
    · -- the run ends with its bootstrap
      have htrace := trace_eq hfound hne
      rw [Trace.bind_of_error hboot] at htrace
      refine forall_mem_moments.mpr ⟨hbefore, ?_, ?_⟩
      · rw [htrace]
        exact hmoments
      · unfold after
        rw [htrace, r.keeps.closed]
        exact hend
    · -- behind the bootstrap there is a ledger, and it stays
      have hready : r.job.ledger.Readable (r.view r.bootstrap.state) := by
        rcases past_cases hboot with ⟨-, -, htables, hsame⟩ | ⟨-, -, hstored⟩
        · rw [hsame]
          exact hbefore htables
        · exact Ledger.readable_of_stored? hstored id
      obtain ⟨hsent, hafter, -⟩ := trace_of_bootstrap hfound hne hboot
      obtain ⟨hend', hmoments'⟩ := Job.shape?_resume r.keeps (fun script hscript =>
        (hleaves scripts hfound script hscript).spares_shape r.job.ledger.Fits) action hready
      refine forall_mem_moments.mpr ⟨hbefore, ?_, ?_⟩
      · rw [hsent]
        exact List.forall_mem_append.mpr ⟨hmoments, fun e he _ => hmoments' e he⟩
      · rw [hafter]
        exact fun _ => hend'
  · intro s hs
    exact (eq_before_of_not_begins hbegins s hs).symm ▸ hbefore

/-- The point at which the run starts. -/
def point (r : Run fate) : Dialogue (Except MigrationError Report) × r.σ :=
  ((r.job.run r.listing).run, r.start)

variable {x y : Dialogue (Except MigrationError Report) × r.σ}

/-- To cancel a statement and to close the session changes nothing in the store. -/
theorem invariant_of_leads {P : Store → Prop} (h : Dialogue.Leads r.session x y)
    (hsent : ∀ e ∈ Dialogue.exchanges r.session x.1 x.2, ∀ state,
      r.session.send state e.statement = (e.reply, e.after) → P (r.view state) →
        P (r.view e.after))
    (hx : P (r.view x.2)) : P (r.view y.2) := by
  refine h.invariant (P := fun state => P (r.view state)) hsent ?_ ?_ hx
  · intro state hstate
    rw [r.keeps.cancelled]
    exact hstate
  · intro state hstate
    rw [r.keeps.closed]
    exact hstate

/-- The actions of a run lead to its moments. -/
theorem mem_moments_of_leads (h : Dialogue.Leads r.session r.point y) :
    r.view y.2 ∈ r.moments := by
  obtain ⟨hbefore, hsent, -⟩ := forall_mem_moments.mp fun s (hs : s ∈ r.moments) => hs
  exact invariant_of_leads (P := (· ∈ r.moments)) h (fun e he _ _ _ => hsent e he) hbefore

/-- What a run sends are statements of its steps. -/
theorem exists_step_of_mem_sent {e : Exchange r.σ} (he : e ∈ r.trace.sent) :
    ∃ step ∈ r.steps, e.statement = step.statement.withTimeout r.job.timeout := by
  obtain ⟨step, hstep, hstatement⟩ := List.mem_map.mp
    (r.sent_follows_steps.subset (List.mem_map_of_mem he))
  exact ⟨step, hstep, hstatement.symm⟩

/-- A ledger that can be read at some point of a run without refresh can be read from then on. -/
theorem readable_of_leads (hleaves : r.LeavesLedger) (hrefresh : r.job.config.refresh = false)
    (hx : Dialogue.Leads r.session r.point x) (h : Dialogue.Leads r.session x y)
    (hreadable : r.job.ledger.Readable (r.view x.2)) : r.job.ledger.Readable (r.view y.2) := by
  have hsteps : ∀ step ∈ r.steps,
      r.session.Preserves r.view r.job.timeout r.job.ledger.Readable step.statement := by
    unfold steps
    rcases hfound : r.found with _ | ⟨script, scripts⟩
    · simp
    · have hdiscovered : r.discovered = .ok r.found :=
        discovered_of_mem_found (hfound ▸ List.mem_cons_self)
      rw [hfound] at hdiscovered
      apply Job.forall_mem_steps
      · intro request hdrop _
        exact r.keeps.preserves_of_done (Ledger.Request.readable_of_done (hdrop hrefresh))
      · intro script hscript
        exact (hleaves _ hdiscovered script hscript).spares_shape r.job.ledger.Fits
  refine invariant_of_leads h ?_ hreadable
  intro e he state hsend hstate
  obtain ⟨step, hstep, hstatement⟩ := exists_step_of_mem_sent (hx.suffix.subset he)
  have hafter := hsteps step hstep state hstate
  rw [← hstatement, hsend] at hafter
  exact hafter

end Run

/-! ## A status on stores that change -/

/-- The session fails no question for the tables and no reading of the ledger that the store does
not refuse. -/
def Session.GrantsQueries {σ : Type} (session : Session σ) (view : σ → Store) (l : Ledger)
    (timeout : Nat) : Prop :=
  ∀ r, r = .listTables ∨ r = .selectRows → ∀ state, Ledger.Request.Possible l r (view state) →
    ∃ rows, (session.send state ((r.statement l).withTimeout timeout)).1.rows? timeout = some rows

namespace Job

variable {τ : Type} {fate : FailedWrite} {session : Session (τ × Store)} {job : Job}
  {listing : Listing} {scripts : List Script} {still : Store} {own : τ} {seen : List Store}

/-- Whatever stores a status finds, it leaves them alone. -/
theorem quiet_status (hkeeps : session.Keeps fate Prod.snd job.ledger job.timeout)
    (listing : Listing) (own : τ) :
    Dialogue.Quiet session (job.status listing).run own where
  sent := by
    intro still seen e he state
    have hlooks := job.looks_status (session.along still) listing (own, seen)
    have hquery : ∃ r : Ledger.Request, (r = .listTables ∨ r = .selectRows) ∧
        e.statement = (r.statement job.ledger).withTimeout job.timeout := by
      rcases List.mem_pair.mp (hlooks.sublist.subset (List.mem_map_of_mem he)) with hlist | hread
      · exact ⟨.listTables, .inl rfl, hlist⟩
      · exact ⟨.selectRows, .inr rfl, hread⟩
    obtain ⟨r, hr, hstatement⟩ := hquery
    rw [hstatement, ← hkeeps.view_ask (r.statement job.ledger) id state]
    exact (hkeeps.ask_query hr id state).1
  cancelled := hkeeps.cancelled
  closed := hkeeps.closed

section Along

variable (hkeeps : session.Keeps fate Prod.snd job.ledger job.timeout)
  (hqueries : session.GrantsQueries Prod.snd job.ledger job.timeout)
  (hready : (job.ledger.tables? (seen.headD still)).getD [] ≠ [] →
    job.ledger.Readable (seen.tail.headD still))
  (hsound : ∀ row ∈ job.ledger.storedRows (seen.tail.headD still), row.Sound)
include hkeeps hqueries hready hsound

/-- A status that finds one store with its first question and another with its second tells of the
rows of one of them, if a table in the first means that the second has a ledger. -/
theorem inspectScripts_along :
    ∃ s ∈ [seen.headD still, seen.tail.headD still], ∃ present records,
      records.Perm ((job.ledger.storedRows s).map job.ledger.recordIn) ∧
      (job.inspectScripts (session.along still) scripts (own, seen)).result =
        .ok (job.statusOf scripts present (Ledger.sortRecords records)) := by
  let t := session.along still
  let wrap := MigrationError.ledgerRead job.ledger.qualified
  obtain ⟨tables, htables⟩ := hqueries .listTables (.inl rfl) (own, seen.headD still)
    (Ledger.Request.possible_listTables _ _)
  have hlists : (t.send (own, seen) (job.ledger.listTables.withTimeout job.timeout)).1.rows?
    job.timeout = some tables := htables
  have hlisted := t.ask_result_of_some job.timeout hlists wrap
  obtain ⟨-, hempty⟩ := Ledger.Request.done_listTables (hkeeps.done .listTables _ _ htables)
  by_cases hnone : tables = []
  · -- without a table there are no rows
    have hrows := Ledger.storedRows_of_no_tables (hempty.mp hnone)
    rw [hnone] at hlisted
    refine ⟨_, List.mem_cons_self, false, [], ?_, ?_⟩
    · rw [hrows]
      exact List.Perm.refl []
    · rw [inspectScripts_of_no_tables t hlisted, Ledger.sortRecords, List.mergeSort_nil]
  · -- the second question goes to the store that is there by then
    let state := (t.send (own, seen) (job.ledger.listTables.withTimeout job.timeout)).2
    have hreads := hready (fun htables => hnone (hempty.mpr htables))
    obtain ⟨rows, hrows⟩ := hqueries .selectRows (.inr rfl) (state.1, seen.tail.headD still)
      (Ledger.Request.possible_selectRows hreads)
    have hanswer : (t.send state (job.ledger.selectRows.withTimeout job.timeout)).1.rows?
      job.timeout = some rows := hrows
    have hread := t.ask_result_of_some job.timeout hanswer wrap
    obtain ⟨-, table, hstored, -, hperm⟩ :=
      Ledger.Request.done_selectRows (hkeeps.done .selectRows _ _ hrows)
    rw [← Ledger.storedRows_of_stored? hstored] at hperm
    obtain ⟨records, hdecoded⟩ := Ledger.decodeRows_of_sound hperm hsound
    refine ⟨_, List.mem_cons_of_mem _ List.mem_cons_self, true, records,
      (Ledger.decodeRows_cells hperm hdecoded).2, ?_⟩
    rw [inspectScripts_of_tables t hlisted hnone, t.ask_state_of_some job.timeout hlists, hread]
    simp [Except.bind, Answer.ofRows, survey, hdecoded, Except.map]

/-- So the status succeeds, if its session closes. -/
theorem status_along (hcloses : ∀ state, (session.close state).1 = none)
    (hfound : (discover job.naming job.config.scriptDirectory listing).result = .ok scripts) :
    ∃ s ∈ [seen.headD still, seen.tail.headD still], ∃ present records,
      records.Perm ((job.ledger.storedRows s).map job.ledger.recordIn) ∧
      (Task.trace (session.along still) (job.status listing) (own, seen)).result =
        .ok (job.statusOf scripts present (Ledger.sortRecords records)) := by
  obtain ⟨s, hs, present, records, hperm, hresult⟩ :=
    inspectScripts_along hkeeps hqueries hready hsound
  refine ⟨s, hs, present, records, hperm, ?_⟩
  have hclosed : ∀ state, ((session.along still).close state).1 = none := fun state => hcloses _
  rw [job.trace_status (session.along still) hfound (own, seen), hclosed, hresult]
  rfl

end Along

end Job

/-! ## A run and a status -/

/-- A run and a status of one job over one directory, at the same time. Each has a session of its
own, and the sessions share a store. -/
structure Watched (fate : FailedWrite) where
  job : Job
  listing : Listing
  /-- What the session of the run keeps for itself. -/
  ρ : Type
  running : Session (ρ × Store)
  runner : ρ
  /-- What the session of the status keeps for itself. -/
  τ : Type
  looking : Session (τ × Store)
  looker : τ
  store : Store
  running_keeps : running.Keeps fate Prod.snd job.ledger job.timeout
  looking_keeps : looking.Keeps fate Prod.snd job.ledger job.timeout

namespace Watched

variable {fate : FailedWrite}

/-- How far the run and the status have got. -/
abbrev Moment (w : Watched fate) :=
  Tandem w.ρ w.τ Store (Except MigrationError Report) (Except MigrationError Status)

variable (w : Watched fate)

def start : w.Moment where
  first := (w.job.run w.listing).run
  second := (w.job.status w.listing).run
  firstOwn := w.runner
  secondOwn := w.looker
  shared := w.store

/-- The run or the status takes one action. -/
def Turn : w.Moment → w.Moment → Prop :=
  Tandem.Turn w.running w.looking

/-- The run and the status get there if they take turns in some order. -/
def Reaches (c : w.Moment) : Prop :=
  ReflTransGen w.Turn w.start c

/-- The run without the status. -/
def alone : Run fate where
  σ := w.ρ × Store
  session := w.running
  view := Prod.snd
  start := (w.runner, w.store)
  job := w.job
  listing := w.listing
  keeps := w.running_keeps

/-- A run that does not start the ledger anew, whose scripts leave it alone, on a keyspace that is
absent or has a ledger with records. Nothing goes wrong with the questions of the status on their own
account; the statements of the run may fail. -/
structure Orderly (scripts : List Script) : Prop where
  refresh : w.job.config.refresh = false
  found : w.alone.discovered = .ok scripts
  leaves : w.alone.LeavesLedger
  stored : w.job.ledger.tables? w.store = none ∨ w.job.ledger.Readable w.store ∧
    ∀ row ∈ w.job.ledger.storedRows w.store, row.Sound
  queries : w.looking.GrantsQueries Prod.snd w.job.ledger w.job.timeout
  closes : ∀ state, (w.looking.close state).1 = none

/-- What a status tells while scripts are being recorded. -/
structure Tells (scripts recorded : List Script) (status : Status) : Prop where
  /-- Of the rows that were there, and those of the scripts that have been recorded first. -/
  applied : ∃ now, now <+: recorded ∧ status.applied.Perm
    ((w.job.ledger.storedRows w.store ++ now.map w.job.ledger.storedRow).map w.job.ledger.recordIn)
  sorted : status.applied.Pairwise fun a b => a.version ≤ b.version
  /-- The scripts that are newer than all of these are pending. -/
  pending : status.pending = scripts.filter fun s => newestVersion status.applied < s.version
  /-- The rest follows from these as well. -/
  rest : status = w.job.statusOf scripts status.keyspacePresent status.applied

/-- What becomes of a run and a status, with the scripts that the run records if it is alone. -/
structure Safe (scripts recorded : List Script) : Prop where
  due : recorded <+: pendingAfter (w.job.ledger.storedRows w.store) scripts
  rows : w.job.ledger.storedRows w.alone.after =
    w.job.ledger.storedRows w.store ++ recorded.map w.job.ledger.storedRow
  /-- In whatever order they take turns, it comes to an end. -/
  ends : WellFounded fun later now => w.Turn now later
  /-- Then both are done. -/
  done : ∀ c, (∀ later, ¬ w.Turn c later) →
    (∃ result, c.first = .done result) ∧ ∃ result, c.second = .done result
  /-- When the run is done, it has come to what it would have come to alone. -/
  run : ∀ c, w.Reaches c → ∀ result, c.first = .done result →
    result = w.alone.trace.result ∧ c.shared = w.alone.after
  /-- When the status is done, it has succeeded. -/
  status : ∀ c, w.Reaches c → ∀ result, c.second = .done result →
    ∃ status, result = .ok status ∧ w.Tells scripts recorded status

variable {w} {scripts : List Script}

theorem Orderly.comesFirst (h : w.Orderly scripts) :
    ∀ s ∈ w.alone.moments, w.job.ledger.ComesFirst s := by
  refine Run.comesFirst (r := w.alone) h.leaves fun htables => ?_
  rcases h.stored with habsent | ⟨hreadable, -⟩
  · exact absurd (congrArg (·.getD []) habsent) htables
  · exact hreadable

/-- What the run records, and what there is of it at each of its moments. -/
theorem Orderly.growth (h : w.Orderly scripts) :
    ∃ recorded, recorded <+: pendingAfter (w.job.ledger.storedRows w.store) scripts ∧
      w.job.ledger.storedRows w.alone.after =
        w.job.ledger.storedRows w.store ++ recorded.map w.job.ledger.storedRow ∧
      ∀ s ∈ w.alone.moments, ∃ now, now <+: recorded ∧ w.job.ledger.storedRows s =
        w.job.ledger.storedRows w.store ++ now.map w.job.ledger.storedRow := by
  have hgrowth := Run.growth (r := w.alone) h.leaves (Run.not_drops_of_refresh h.refresh)
  rw [Run.found_of_ok h.found] at hgrowth
  exact hgrowth

/-- The rows are records at every moment. -/
theorem Orderly.sound (h : w.Orderly scripts) {s : Store} (hs : s ∈ w.alone.moments) :
    ∀ row ∈ w.job.ledger.storedRows s, row.Sound := by
  obtain ⟨recorded, hrecorded, -, hmoments⟩ := h.growth
  obtain ⟨now, hnow, hrows⟩ := hmoments s hs
  rw [hrows]
  apply Ledger.sound_append
  · rcases h.stored with habsent | ⟨-, hsound⟩
    · rw [Ledger.storedRows_of_no_tables (congrArg (·.getD []) habsent)]
      exact List.forall_mem_nil _
    · exact hsound
  · intro script hscript
    have hfound : script ∈ scripts :=
      List.mem_of_mem_filter (hrecorded.subset (hnow.subset hscript))
    exact version_le_of_discover h.found script hfound

/-- A status that is done tells of the rows at some moment of the run. -/
theorem Orderly.status_of_done (h : w.Orderly scripts) {c : w.Moment} (hreach : w.Reaches c)
    {result : Except MigrationError Status} (hdone : c.second = .done result) :
    ∃ s ∈ w.alone.moments, ∃ present records,
      records.Perm ((w.job.ledger.storedRows s).map w.job.ledger.recordIn) ∧
      result = .ok (w.job.statusOf scripts present (Ledger.sortRecords records)) := by
  obtain ⟨seen, hvisits, hleads⟩ :=
    Tandem.along_of_turns (Job.quiet_status w.looking_keeps w.listing w.looker) hreach
  -- its two questions are answered at two points of the run, one behind the other
  obtain ⟨x, hx, hfirst, hvisits⟩ := hvisits.next
  obtain ⟨y, hy, hsecond, -⟩ := hvisits.next
  have hmoment : x.2.2 ∈ w.alone.moments := Run.mem_moments_of_leads (r := w.alone) hx
  have hmoment' : y.2.2 ∈ w.alone.moments := Run.mem_moments_of_leads (r := w.alone) (hx.trans hy)
  have hready : (w.job.ledger.tables? x.2.2).getD [] ≠ [] → w.job.ledger.Readable y.2.2 :=
    fun htables => Run.readable_of_leads (r := w.alone) h.leaves h.refresh hx hy
      (h.comesFirst x.2.2 hmoment htables)
  have hsound := h.sound hmoment'
  have hresult := ((hleads c.shared []).of_done hdone).1
  rw [List.append_nil] at hresult
  rw [hfirst, hsecond] at hready
  rw [hsecond] at hsound
  obtain ⟨s, hs, present, records, hperm, hstatus⟩ := Job.status_along w.looking_keeps h.queries
    hready hsound h.closes h.found
  refine ⟨s, ?_, present, records, hperm, hresult.symm.trans hstatus⟩
  rcases List.mem_pair.mp hs with rfl | rfl
  · exact hfirst ▸ hmoment
  · exact hsecond ▸ hmoment'

/-- What is told of the rows at some moment. -/
theorem tells_of_records {recorded now : List Script} (hnow : now <+: recorded)
    {records : List AppliedScript} (hperm : records.Perm ((w.job.ledger.storedRows w.store ++
      now.map w.job.ledger.storedRow).map w.job.ledger.recordIn)) (present : Bool) :
    w.Tells scripts recorded (w.job.statusOf scripts present (Ledger.sortRecords records)) where
  applied := ⟨now, hnow, (Ledger.sortRecords_perm records).trans hperm⟩
  sorted := Ledger.sortRecords_sorted records
  pending := by
    simp only [Job.statusOf]
    rw [lastVersion_of_sorted (Ledger.sortRecords_sorted records)]
    rfl
  rest := rfl

/-- **A status next to a run.** In whatever order they take turns, the status succeeds and tells of
the rows that were there with those of the first scripts that the run has recorded, and the run comes
to the same as without it. -/
theorem safe (h : w.Orderly scripts) : ∃ recorded, w.Safe scripts recorded := by
  obtain ⟨recorded, hrecorded, hend, hmoments⟩ := h.growth
  refine ⟨recorded, hrecorded, hend, Tandem.wellFounded_turn, fun c => Tandem.stuck_iff.mp, ?_, ?_⟩
  · intro c hreach result hdone
    obtain ⟨seen, hvisits, -⟩ :=
      Tandem.along_of_turns (Job.quiet_status w.looking_keeps w.listing w.looker) hreach
    obtain ⟨hresult, hstate⟩ := hvisits.leads.of_done hdone
    exact ⟨hresult.symm, congrArg Prod.snd hstate.symm⟩
  · intro c hreach result hdone
    obtain ⟨s, hs, present, records, hperm, hresult⟩ := h.status_of_done hreach hdone
    obtain ⟨now, hnow, hrows⟩ := hmoments s hs
    rw [hrows] at hperm
    exact ⟨_, hresult, tells_of_records hnow hperm present⟩

end Watched

/-! ## A sample -/

namespace Sample

/-- A session on a store that it shares, without a state of its own. -/
def sharing (session : Session Store) : Session (Unit × Store) where
  backend := session.backend
  dialect := session.dialect
  send state statement :=
    let (reply, s) := session.send state.2 statement
    (reply, (), s)
  cancel state := ((), session.cancel state.2)
  close state :=
    let (error, s) := session.close state.2
    (error, (), s)

theorem sharing_keeps {session : Session Store}
    (h : session.Keeps .undone id job.ledger job.timeout) :
    (sharing session).Keeps .undone Prod.snd job.ledger job.timeout where
  done r state := h.done r state.2
  undone r state := h.undone r state.2
  cancelled state := h.cancelled state.2
  closed state := h.closed state.2

/-- A run over the directory, with some of its statements refused, and a status that is refused
nothing. -/
def watched (refuses : Statement → Bool) (start : Store) : Watched .undone where
  job := job
  listing := listing
  ρ := Unit
  running := sharing (Store.refusing .cql refuses)
  runner := ()
  τ := Unit
  looking := sharing (Store.refusing .cql fun _ => false)
  looker := ()
  store := start
  running_keeps := sharing_keeps (run refuses start).keeps
  looking_keeps := sharing_keeps (run (fun _ => false) start).keeps

theorem orderly_watched (refuses : Statement → Bool) :
    (watched refuses Store.empty).Orderly scripts where
  refresh := rfl
  found := discovered refuses Store.empty
  leaves := fun found hfound script hscript text htext state =>
    leavesLedger refuses Store.empty found hfound script hscript text htext state.2
  stored := .inl rfl
  queries := fun r _ state hpossible => grants Store.empty r state.2 hpossible
  closes := fun _ => rfl

end Sample

/-- A run that fails at its second script, on a keyspace that is absent. -/
theorem Watched.safe_sample :
    let w := Sample.watched (fun s => s.text = "SELECT 2") Store.empty
    w.Orderly Sample.scripts ∧ ∃ recorded, w.Safe Sample.scripts recorded :=
  ⟨Sample.orderly_watched _, Watched.safe (Sample.orderly_watched _)⟩

end SchemaMigration
