import SchemaMigration.Proofs.Migration.Blame
import SchemaMigration.Proofs.Migration.Inspection

/-!
# Versions keep their value

A version goes from the digits in a file name to a number, from there into a column of the ledger,
and back out of a cell. On this way it is never too great for anything, as a naming scheme has nine
digits at most. So the errors about versions that are no numbers, or that the ledger has no room
for, cannot be met in a run.

* `Version.Exact`: the version has one value wherever it goes.
* `discover_ne_version`: no discovery fails over a version.
* `Job.script_of_mem_agendaOf`: the records on the agenda are those of discovered scripts.
* `Job.versions_fit`: no run and no status fails over a version, and what is recorded is exact.
-/

namespace SchemaMigration

/-- The version keeps its value as a number of thirty-two bits with a sign, as the cell of sixty-four
bits that is read from it, and as the number without a sign that this is turned into. -/
structure Version.Exact (v : Version) : Prop where
  column : (Int32.ofNat v).toInt = v
  cell : (Int32.ofNat v).toInt64.toInt = v
  version : (UInt32.ofNat v).toNat = v

theorem Version.exact_of_le {v : Version} (h : v ≤ Ledger.maxColumnVersion) : v.Exact := by
  have hbound : Ledger.maxColumnVersion < 2 ^ 31 := by decide
  have hcolumn : (Int32.ofNat v).toInt = v :=
    Int32.toInt_ofNat_of_lt (Nat.lt_of_le_of_lt h hbound)
  refine ⟨hcolumn, (Int32.toInt_toInt64 _).trans hcolumn, UInt32.toNat_ofNat_of_lt' ?_⟩
  exact Nat.lt_of_le_of_lt h (by decide)

/-- The numbers that a statement binds. -/
def Statement.numbers (statement : Statement) : List Int :=
  statement.values.filterMap fun
    | .int n | .bigint n => some n
    | _ => none

/-! ## Names -/

theorem NamingScheme.version_le_of_accepts {s : NamingScheme} {name : String}
    (h : s.accepts name = true) :
    ∃ v, s.version name = .ok v ∧ v ≤ Ledger.maxColumnVersion := by
  obtain ⟨digits, rest, -, -, -, hversion⟩ := version_of_accepts h
  have hlt := version_lt_of_accepts h hversion
  exact ⟨_, hversion, Nat.le_trans (Nat.le_of_lt hlt) tenTo_maxVersionWidth_le⟩

/-- Of a file with an accepted name only the text can be at fault. -/
theorem readScript_ne_version {naming : NamingScheme} {directory : String}
    {file : String × ByteArray} (haccepts : naming.accepts file.1 = true) (error : VersionError) :
    readScript naming directory file ≠ .error (.version error) := by
  obtain ⟨v, hversion, -⟩ := NamingScheme.version_le_of_accepts haccepts
  rcases htext : String.fromUTF8? file.2 with _ | text <;>
    simp [readScript, hversion, htext, bind, Except.bind, Except.mapError]

/-- Only names with a version are candidates, so no discovery fails over one. -/
theorem discover_ne_version (naming : NamingScheme) (directory : String) (listing : Listing)
    (error : VersionError) :
    (discover naming directory listing).result ≠ .error (.version error) := by
  cases listing with
  | missing => simp [discover]
  | refused reason => simp [discover]
  | entries items =>
      rw [result_of_entries]
      intro h
      obtain ⟨file, hfile, hread⟩ := exists_file_of_error h
      exact readScript_ne_version (mem_candidates_iff.mp hfile).1 error hread

/-! ## Records -/

theorem eq_of_mem_zip {α β γ : Type} {f : α → γ} {g : β → γ} {first : List α}
    {second : List β} (h : first.map f <+: second.map g) {p : α × β}
    (hp : p ∈ first.zip second) : f p.1 = g p.2 := by
  obtain ⟨i, hi, rfl⟩ := List.mem_iff_getElem.mp hp
  rw [List.length_zip, Nat.lt_min] at hi
  have hfirst : i < (first.map f).length := by simpa using hi.1
  simpa using h.getElem hfirst

namespace Ledger

/-- The only number in the statement that records a script is the version. -/
theorem numbers_insertRow (l : Ledger) (id : Uuid) (version : Int) (script : Script) :
    (l.insertRow id version script).numbers = [version] := by
  unfold insertRow rowValues
  cases l.dialect <;> cases l.checksums <;> rfl

/-- What a session says about a failure is never that there is no room. -/
theorem message_ne_noRoom (error : SessionError) (version : Version) :
    error.message ≠ noRoom version := by
  intro h
  -- the first characters differ: the code of the error is in brackets
  have hmessage : error.message.toList.head? = some '[' := by
    unfold SessionError.message
    cases error <;> simp
  have hroom : (noRoom version).toList.head? = some 'v' := by
    simp [noRoom]
  rw [h, hroom] at hmessage
  exact absurd hmessage (by decide)

end Ledger

namespace Job

variable {σ : Type} {job : Job} {listing : Listing}

theorem script_of_mem_dueAgenda {number : Nat} {scripts : List Script} {item : Item}
    (hitem : item ∈ job.dueAgenda number scripts) {name : String}
    (hpurpose : item.purpose = .record name) :
    ∃ script ∈ scripts, script.name = name ∧
      ∃ id, item.statement = job.ledger.insertRow id script.version script := by
  induction scripts generalizing number with
  | nil => cases hitem
  | cons script scripts ih =>
      rcases List.mem_append.mp hitem with hitem | hitem
      · refine ⟨script, List.mem_cons_self, ?_⟩
        rcases List.mem_append.mp hitem with hitem | hitem
        · obtain ⟨text, -, rfl⟩ := List.mem_map.mp hitem
          cases hpurpose
        · rw [List.mem_singleton] at hitem
          subst hitem
          exact ⟨Purpose.record.inj hpurpose, _, rfl⟩
      · obtain ⟨other, hother, hrest⟩ := ih hitem
        exact ⟨other, List.mem_cons_of_mem _ hother, hrest⟩

/-- A record on the agenda of a run is that of a script that was discovered. -/
theorem script_of_mem_agendaOf {sent : List (Exchange σ)} {item : Item}
    (hitem : item ∈ job.agendaOf listing sent) {name : String}
    (hpurpose : item.purpose = .record name) :
    ∃ scripts, (discover job.naming job.config.scriptDirectory listing).result = .ok scripts ∧
      ∃ script ∈ scripts, script.name = name ∧
        ∃ id, item.statement = job.ledger.insertRow id script.version script := by
  unfold agendaOf at hitem
  rcases hfound : (discover job.naming job.config.scriptDirectory listing).result with
    error | scripts
  · simp [hfound] at hitem
  · refine ⟨scripts, rfl, ?_⟩
    by_cases hempty : scripts.isEmpty = true
    · simp [hfound, hempty] at hitem
    · simp only [hfound, hempty, if_false, Bool.false_eq_true, agenda, List.mem_append,
        List.mem_cons] at hitem
      rcases hitem with hopening | rfl | hdue
      · obtain ⟨step, -, rfl⟩ := List.mem_map.mp hopening
        cases hpurpose
      · cases hpurpose
      · obtain ⟨script, hscript, hrest⟩ := script_of_mem_dueAgenda hdue hpurpose
        exact ⟨script, mem_of_dueScripts hscript, hrest⟩

/-- The statement carries the version of the script of that name: the version stands in the name and
is exact, the statement binds it and no other number, and every row that has it in its first column
is read as a record of this version. -/
def CarriesVersion (job : Job) (name : String) (statement : Statement) : Prop :=
  ∃ version, job.naming.version name = .ok version ∧ version.Exact ∧
    statement.numbers = [(version : Int)] ∧
    ∀ row : Row, row.int? 0 = some (version : Int) →
      ∃ record, job.ledger.decodeRow row = .ok record ∧ record.version = version

theorem carriesVersion_of_mem {sent : List (Exchange σ)} {item : Item}
    (hitem : item ∈ job.agendaOf listing sent) {name : String}
    (hpurpose : item.purpose = .record name) : job.CarriesVersion name item.statement := by
  obtain ⟨scripts, hfound, script, hscript, rfl, id, hstatement⟩ :=
    script_of_mem_agendaOf hitem hpurpose
  have hle := version_le_of_discover hfound script hscript
  have hbound : script.version < Ledger.versionBound := Nat.lt_of_le_of_lt hle (by decide)
  refine ⟨script.version, (holds_of_discover hfound hscript).2.1, Version.exact_of_le hle, ?_, ?_⟩
  · rw [hstatement, Ledger.numbers_insertRow]
  · exact fun row hrow => ⟨_, Ledger.decodeRow_of_version hrow hbound, rfl⟩

/-- A run does not fail over a version, neither where scripts are discovered nor where they are
recorded. -/
theorem run_ne_version (session : Session σ) (job : Job) (listing : Listing) (state : σ) :
    let result := (Task.trace session (job.run listing) state).result
    (∀ error, result ≠ .error (.discovery (.version error))) ∧
      ∀ name table version, result ≠ .error (.ledgerWrite name table (Ledger.noRoom version)) := by
  intro result
  have hwent := migrate_went session job listing state
  constructor
  · intro error h
    have hmigrate := (closingAfter_eq_error session _ state (by simp)).mp h
    exact discover_ne_version _ _ listing error ((hwent.blames (by simp) none).mp hmigrate)
  · intro name table version h
    have hmigrate := (closingAfter_eq_error session _ state (by simp)).mp h
    obtain ⟨-, error, -, hreason⟩ := (hwent.blames (by simp) none).mp hmigrate
    exact Ledger.message_ne_noRoom error version hreason.symm

/-- Rows tell of a status unless one of them is no record. -/
theorem error_of_survey {scripts : List Script} {rows : List Row} {error : MigrationError}
    (h : job.survey scripts rows = .error error) :
    ∃ reason, error = .ledgerRow job.ledger.qualified reason := by
  rcases hrows : job.ledger.decodeRows rows with other | records
  · simp only [survey, hrows, Except.map, Except.error.injEq] at h
    exact h ▸ Ledger.error_of_decodeRows hrows
  · simp [survey, hrows, Except.map] at h

/-- Behind the discovery, whatever keeps a status from telling is about the ledger. -/
theorem error_of_inspectScripts (session : Session σ) (job : Job) (scripts : List Script)
    (state : σ) {error : MigrationError}
    (h : (job.inspectScripts session scripts state).result = .error error) :
    (∃ reason, error = .ledgerRead job.ledger.qualified reason) ∨
      ∃ reason, error = .ledgerRow job.ledger.qualified reason := by
  obtain ⟨_, -, -, -, ⟨tables, -, hlisted⟩ | ⟨-, hlisted⟩⟩ := session.ask_cases job.timeout
    job.ledger.listTables (MigrationError.ledgerRead job.ledger.qualified) state
  · by_cases hpresent : tables = []
    · rw [hpresent] at hlisted
      cases (inspectScripts_of_no_tables session hlisted).symm.trans h
    · rw [inspectScripts_of_tables session hlisted hpresent] at h
      obtain ⟨_, -, -, -, ⟨rows, -, hread⟩ | ⟨-, hread⟩⟩ := session.ask_cases job.timeout
        job.ledger.selectRows (MigrationError.ledgerRead job.ledger.qualified)
        (session.ask job.timeout job.ledger.listTables
          (MigrationError.ledgerRead job.ledger.qualified) state).state
      · simp only [hread, Except.bind] at h
        exact .inr (error_of_survey h)
      · simp only [hread, Except.bind, Except.error.injEq] at h
        exact .inl ⟨_, h.symm⟩
  · rw [inspectScripts, Trace.bind_of_error hlisted] at h
    exact .inl ⟨_, (Except.error.inj h).symm⟩

/-- A status does not fail over a version either. -/
theorem status_ne_version (session : Session σ) (job : Job) (listing : Listing) (state : σ)
    (error : VersionError) : (Task.trace session (job.status listing) state).result ≠
      .error (.discovery (.version error)) := by
  intro h
  have hinspect := (closingAfter_eq_error session _ state (by simp)).mp h
  rw [trace_inspect] at hinspect
  rcases hfound : (discover job.naming job.config.scriptDirectory listing).result with
    other | scripts
  · simp only [hfound, Except.error.injEq, MigrationError.discovery.injEq] at hinspect
    exact discover_ne_version _ _ listing error (by rw [hfound, hinspect])
  · simp only [hfound] at hinspect
    rcases job.error_of_inspectScripts session scripts state hinspect with ⟨_, h⟩ | ⟨_, h⟩ <;>
      cases h

/-- Versions never fail in a run. Every name that the scheme accepts has a version, which is exact,
and so has every script that is discovered. With any session, whatever it answers, neither a run nor
a status fails over a version in a name, and no run fails for want of room in the ledger. What a run
sends are the first statements of its agenda, and each one that records a script carries the version
of that script. -/
theorem versions_fit (job : Job) (listing : Listing) :
    (∀ name, job.naming.accepts name = true →
      ∃ version, job.naming.version name = .ok version ∧ version.Exact) ∧
    (∀ scripts, (discover job.naming job.config.scriptDirectory listing).result = .ok scripts →
      ∀ script ∈ scripts, job.naming.version script.name = .ok script.version ∧
        script.version.Exact) ∧
    ∀ {σ : Type} (session : Session σ) (state : σ),
      let run := Task.trace session (job.run listing) state
      let status := Task.trace session (job.status listing) state
      (∀ error, run.result ≠ .error (.discovery (.version error)) ∧
        status.result ≠ .error (.discovery (.version error))) ∧
      (∀ name table version,
        run.result ≠ .error (.ledgerWrite name table (Ledger.noRoom version))) ∧
      run.sent.map (·.statement) <+:
        (job.agendaOf listing run.sent).map (·.statement.withTimeout job.timeout) ∧
      ∀ p ∈ run.sent.zip (job.agendaOf listing run.sent), ∀ name, p.2.purpose = .record name →
        job.CarriesVersion name p.1.statement := by
  refine ⟨?_, ?_, ?_⟩
  · intro name haccepts
    obtain ⟨v, hversion, hle⟩ := NamingScheme.version_le_of_accepts haccepts
    exact ⟨v, hversion, Version.exact_of_le hle⟩
  · intro scripts hfound script hscript
    exact ⟨(holds_of_discover hfound hscript).2.1,
      Version.exact_of_le (version_le_of_discover hfound script hscript)⟩
  · intro σ session state run status
    obtain ⟨hnames, hroom⟩ := run_ne_version session job listing state
    have hrun : run = _ := trace_closingAfter session (job.migrate listing) state
    have hsent : run.sent = (Task.trace session (job.migrate listing) state).sent := by rw [hrun]
    have hfollows := (migrate_failFast_agenda session job listing state).follows
    rw [← hsent] at hfollows
    refine ⟨fun error => ⟨hnames error, status_ne_version session job listing state error⟩,
      hroom, hfollows, ?_⟩
    intro p hp name hpurpose
    rw [eq_of_mem_zip hfollows hp]
    exact carriesVersion_of_mem (List.of_mem_zip hp).2 hpurpose

end Job

namespace Sample

/-- The job with as many digits in a version as there can be. -/
def wide : Job :=
  { job with naming := { NamingScheme.standard with
      width := maxVersionWidth
      width_pos := Nat.zero_lt_succ 8
      width_le := Nat.le_refl maxVersionWidth } }

/-- A directory with a script of the greatest version that there is. -/
def wideListing : Listing :=
  .entries [("V999999999__z.cql", .file "SELECT 1;".toUTF8)]

/-- The script of the directory. -/
def greatest : Script :=
  Script.ofContents 999999999 "V999999999__z.cql" "cql/V999999999__z.cql" "SELECT 1;"

theorem discovered_wide :
    (discover wide.naming wide.config.scriptDirectory wideListing).result = .ok [greatest] := by
  have hcandidates : candidates wide.naming [("V999999999__z.cql", .file "SELECT 1;".toUTF8)] =
      [("V999999999__z.cql", "SELECT 1;".toUTF8)] :=
    List.mergeSort_of_pairwise (by decide)
  have hread : readScripts wide.naming wide.config.scriptDirectory
      [("V999999999__z.cql", "SELECT 1;".toUTF8)] = .ok [greatest] := rfl
  simp only [discover, wideListing, hcandidates, hread]

end Sample

/-- A run that records the greatest version that there is. -/
theorem Job.versions_fit_sample :
    let job := Sample.wide
    let listing := Sample.wideListing
    let run := Task.trace (Store.session .cql) (job.run listing) Store.empty
    (∃ version, job.naming.version "V999999999__z.cql" = .ok version ∧ version.Exact) ∧
      (job.naming.version Sample.greatest.name = .ok Sample.greatest.version ∧
        Sample.greatest.version.Exact) ∧
      ∃ p ∈ run.sent.zip (job.agendaOf listing run.sent),
        p.2.purpose = .record "V999999999__z.cql" ∧
          job.CarriesVersion "V999999999__z.cql" p.1.statement := by
  intro job listing run
  have hfit := Job.versions_fit job listing
  refine ⟨hfit.1 _ (by decide), hfit.2.1 _ Sample.discovered_wide _ List.mem_cons_self, ?_⟩
  have hsent : run.sent =
      (Task.trace (Store.session .cql) (job.migrateScripts [Sample.greatest]) Store.empty).sent := by
    have hrun : run = _ := Job.trace_closingAfter (Store.session .cql) (job.migrate listing) _
    rw [hrun, Job.trace_migrate, Sample.discovered_wide]
    rfl
  have hrecord : ∃ p ∈ run.sent.zip (job.agendaOf listing run.sent),
      p.2.purpose = .record "V999999999__z.cql" := by
    rw [Job.agendaOf_of_found Sample.discovered_wide (List.cons_ne_nil _ _), hsent]
    decide +kernel
  obtain ⟨p, hp, hpurpose⟩ := hrecord
  exact ⟨p, hp, hpurpose, (hfit.2.2 (Store.session .cql) Store.empty).2.2.2 p hp _ hpurpose⟩

end SchemaMigration
