import SchemaMigration.Proofs.Migration.History
import SchemaMigration.Proofs.Migration.Inspection
import SchemaMigration.Proofs.Migration.Plan

/-!
# Verification of checksums

A run that verifies compares the checksum in each row with the file of the name in that row. The
first one that differs, in the order of the versions, ends the run before it has changed anything.

* `Job.Verdict`, `Job.verdict`: what such a run comes to, with any session and any rows.
* `Run.Faithful`: the files that have rows are what they were when they were applied.
* `Run.History.attested`: a checksum in a row is that of the file that has been applied.
* `Run.not_modified_of_faithful`: as long as that holds, no script is reported as changed.
-/

namespace SchemaMigration

/-! ## One run -/

namespace Job

variable {σ : Type} {session : Session σ} {job : Job} {listing : Listing} {scripts : List Script}
  {rows : List Row} {start : σ}

/-- The row has the name of one of the scripts, and a checksum that is not that of the file of this
name. -/
def Changed (listing : Listing) (scripts : List Script) (row : Row) : Prop :=
  ∃ expected, row.text? 2 = some expected ∧ ∃ script ∈ scripts, row.text? 1 = some script.name ∧
    ∃ text, listing.Holds script.name text ∧ Sha256.checksum text ≠ expected

/-- In a ledger with checksums, the record of a row differs exactly if the file has changed. -/
theorem differs_iff_changed (hverifies : job.config.verifyChecksums = true)
    (hdistinct : listing.Distinct)
    (hfound : (discover job.naming job.config.scriptDirectory listing).result = .ok scripts)
    {row : Row} {record : AppliedScript} (hrow : job.ledger.decodeRow row = .ok record) :
    record.Differs scripts ↔ Changed listing scripts row := by
  obtain ⟨-, hname, hchecksum⟩ := Ledger.decodeRow_ok hrow
  have hcolumn : job.ledger.checksums = true := hverifies
  rw [hcolumn, if_pos rfl] at hchecksum
  constructor
  · rintro ⟨expected, hexpected, script, hscript, hsame, hdiffers⟩
    obtain ⟨haccepts, -, text, hholds, htext⟩ := holds_of_discover hfound hscript
    refine ⟨expected, hchecksum.symm.trans hexpected, script, hscript, ?_, text, hholds, ?_⟩
    · -- a row without a name would be one of an empty name
      rcases htext? : row.text? 1 with _ | name
      · rw [htext?] at hname
        exact absurd (hsame.trans hname) (NamingScheme.ne_empty_of_accepts haccepts)
      · rw [htext?] at hname
        exact congrArg some (hsame.trans hname).symm
    · rw [← htext]
      exact hdiffers
  · rintro ⟨expected, hexpected, script, hscript, hsame, text, hholds, hdiffers⟩
    obtain ⟨-, -, text', hholds', htext'⟩ := holds_of_discover hfound hscript
    refine ⟨expected, hchecksum.trans hexpected, script, hscript, ?_, ?_⟩
    · rw [hname, hsame]
      rfl
    · rw [htext', hholds'.unique hdistinct hholds]
      exact hdiffers

/-- Rows that are records keep a run from going on exactly if one of them is that of a changed
script. -/
theorem duty_modified_iff_changed (hverifies : job.config.verifyChecksums = true)
    (hdistinct : listing.Distinct)
    (hfound : (discover job.naming job.config.scriptDirectory listing).result = .ok scripts)
    {records : List AppliedScript} (hdecodes : job.ledger.decodeRows rows = .ok records) :
    (∃ name table, job.duty scripts rows = .error (.modified name table)) ↔
      ∃ row ∈ rows, Changed listing scripts row := by
  constructor
  · rintro ⟨name, table, hduty⟩
    obtain ⟨-, records', names, hdecodes', hfirst⟩ := duty_eq_modified.mp hduty
    obtain rfl : records = records' := Except.ok.inj (hdecodes.symm.trans hdecodes')
    obtain ⟨record, hrecord, -, hdiffers⟩ := differs_of_mem_modifiedNames
      (hfirst ▸ List.mem_cons_self : name ∈ _)
    obtain ⟨row, hrow, hok⟩ := Ledger.exists_row_of_mem hdecodes
      ((Ledger.sortRecords_perm records).mem_iff.mp hrecord)
    exact ⟨row, hrow, (differs_iff_changed hverifies hdistinct hfound hok).mp hdiffers⟩
  · rintro ⟨row, hrow, hchanged⟩
    obtain ⟨record, hrecord, hok⟩ := Ledger.exists_record_of_mem hdecodes hrow
    have hdiffers := (differs_iff_changed hverifies hdistinct hfound hok).mpr hchanged
    have hmem := mem_modifiedNames_of_differs (names_of_discover hfound hdistinct)
      ((Ledger.sortRecords_perm records).mem_iff.mpr hrecord) hdiffers
    obtain ⟨name, names, hfirst⟩ := List.exists_cons_of_ne_nil (List.ne_nil_of_mem hmem)
    exact ⟨name, _, duty_eq_modified.mpr ⟨rfl, records, names, hdecodes, hfirst⟩⟩

/-- The name is that of a changed script whose row has the least version of all these. -/
def LeastChanged (listing : Listing) (scripts : List Script) (rows : List Row) (name : String) :
    Prop :=
  ∃ row ∈ rows, Changed listing scripts row ∧ row.text? 1 = some name ∧
    ∃ version, row.int? 0 = some version ∧ ∀ other ∈ rows, Changed listing scripts other →
      ∀ version', other.int? 0 = some version' → version ≤ version'

theorem leastChanged_of_duty (hverifies : job.config.verifyChecksums = true)
    (hdistinct : listing.Distinct)
    (hfound : (discover job.naming job.config.scriptDirectory listing).result = .ok scripts)
    {name table : String} (hduty : job.duty scripts rows = .error (.modified name table)) :
    LeastChanged listing scripts rows name := by
  obtain ⟨-, records, names, hdecodes, hfirst⟩ := duty_eq_modified.mp hduty
  obtain ⟨record, hrecord, hname, hdiffers, hleast⟩ := least_of_modifiedNames
    (names_of_discover hfound hdistinct) (Ledger.sortRecords_sorted records) hfirst
  obtain ⟨row, hrow, hok⟩ := Ledger.exists_row_of_mem hdecodes
    ((Ledger.sortRecords_perm records).mem_iff.mp hrecord)
  have hchanged := (differs_iff_changed hverifies hdistinct hfound hok).mp hdiffers
  obtain ⟨hversion, hrowName, -⟩ := Ledger.decodeRow_ok hok
  refine ⟨row, hrow, hchanged, ?_, _, hversion, ?_⟩
  · obtain ⟨expected, -, script, -, htext, -⟩ := hchanged
    rw [htext, ← hname, hrowName, htext]
    rfl
  · intro other hother hchanged' version' hversion'
    obtain ⟨record', hrecord', hok'⟩ := Ledger.exists_record_of_mem hdecodes hother
    have hle := hleast record' ((Ledger.sortRecords_perm records).mem_iff.mpr hrecord')
      ((differs_iff_changed hverifies hdistinct hfound hok').mpr hchanged')
    rw [(Ledger.decodeRow_ok hok').1, Option.some.injEq] at hversion'
    rw [← hversion']
    exact Int.ofNat_le.mpr hle

/-- A run that has seen tables and has read the ledger has done so with its first statements. -/
theorem reading_of_sent
    (hrefresh : job.config.refresh = false)
    (hfound : (discover job.naming job.config.scriptDirectory listing).result = .ok scripts)
    {t : Trace σ MigrationError Report} (ht : t = Task.trace session (job.run listing) start)
    (hpresent : answered job.timeout job.ledger.listTables t.sent ≠ [])
    (hread : ∃ e ∈ t.sent, e.statement = job.ledger.selectRows.withTimeout job.timeout ∧
      e.Succeeded job.timeout) :
    let listed := session.ask job.timeout job.ledger.listTables job.ledger.bootstrapError start
    scripts ≠ [] ∧ ∃ tables, listed.result = .ok (.ofRows tables) ∧ tables ≠ [] ∧
      (session.ask job.timeout job.ledger.selectRows
        (MigrationError.ledgerRead job.ledger.qualified) listed.state).result =
          .ok (.ofRows (answered job.timeout job.ledger.selectRows t.sent)) := by
  intro listed
  obtain ⟨g, hg, hselect, hsucc⟩ := hread
  have hne : scripts ≠ [] := by
    rintro rfl
    have hnone := sent_run_of_not_found session job listing
      (fun others hothers => (Except.ok.inj (hfound.symm.trans hothers)).symm) start
    rw [ht, hnone] at hg
    cases hg
  refine ⟨hne, ?_⟩
  obtain ⟨e, hstatement, -, hsent, hanswer⟩ := session.ask_cases job.timeout job.ledger.listTables
    job.ledger.bootstrapError start
  have hlist : ∀ f ∈ [e], f.statement ≠ job.ledger.selectRows.withTimeout job.timeout := by
    simpa [hstatement] using listTables_ne_selectRows job.ledger job.timeout
  have hrun := trace_run session job hfound hne start
  rw [Ledger.trace_bootstrap, Trace.bind_assoc] at hrun
  rcases hanswer with ⟨tables, htables, hok⟩ | ⟨-, herror⟩
  · have hfirst : answered job.timeout job.ledger.listTables t.sent = tables := by
      rw [ht, hrun, Trace.bind_of_ok hok, hsent]
      exact answered_cons_self hstatement htables _
    rw [hfirst] at hpresent
    refine ⟨tables, hok, hpresent, ?_⟩
    obtain ⟨f, hstatement', -, hsent', hanswer'⟩ := session.ask_cases job.timeout
      job.ledger.selectRows (MigrationError.ledgerRead job.ledger.qualified) listed.state
    have hrest : t.sent = [e] ++ (job.resume session scripts .unchanged listed.state).sent := by
      rw [ht, trace_run_of_tables session hrefresh hfound hne hok hpresent, hsent]
    rcases hanswer' with ⟨rows, hrows, hok'⟩ | ⟨hrows, herror'⟩
    · rw [hrest, answered_append hlist, resume, Trace.bind_of_ok hok', hsent']
      rw [hok']
      exact congrArg _ (congrArg _ (answered_cons_self hstatement' hrows _).symm)
    · -- the ledger would have been read in vain
      rw [hrest, resume, Trace.bind_of_error herror', hsent'] at hg
      rcases List.mem_append.mp hg with hg | hg
      · exact absurd hselect (hlist g hg)
      · rw [List.mem_singleton.mp hg] at hsucc
        exact absurd hsucc (Exchange.not_succeeded_iff.mpr hrows)
  · -- nothing would have been sent beyond the listing
    rw [ht, hrun, Trace.bind_of_error herror, hsent] at hg
    exact absurd hselect (hlist g hg)

/-- How a run ends that has found a changed script in some rows. -/
structure Stopped (session : Session σ) (job : Job) (listing : Listing) (scripts : List Script)
    (rows : List Row) (start : σ) (t : Trace σ MigrationError Report) (name table : String) :
    Prop where
  qualified : table = job.ledger.qualified
  /-- The script that it names has a row of the least version of all that are changed. -/
  least : LeastChanged listing scripts rows name
  /-- Only the two queries have been sent. -/
  queries : t.sent.map (·.statement) =
    [job.ledger.listTables.withTimeout job.timeout, job.ledger.selectRows.withTimeout job.timeout]
  /-- If the session keeps a store, this is as it was at every moment. -/
  harmless : ∀ fate view, session.Keeps fate view job.ledger job.timeout →
    view t.state = view start ∧ ∀ e ∈ t.sent, view e.after = view start

/-- What a run comes to that has read some rows to verify them. -/
structure Verdict (session : Session σ) (job : Job) (listing : Listing) (scripts : List Script)
    (rows : List Row) (start : σ) (t : Trace σ MigrationError Report) : Prop where
  /-- It reports a changed script exactly if a row is that of one. -/
  modified_iff : (∃ name table, t.result = .error (.modified name table)) ↔
    ∃ row ∈ rows, Changed listing scripts row
  stopped : ∀ name table, t.result = .error (.modified name table) →
    Stopped session job listing scripts rows start t name table

/-- Whatever a session answers, a verifying run without refresh that finds tables and reads rows
that are records stops exactly if one of them is that of a changed script. It names the first of
these, and has done nothing so far. -/
theorem verdict (hrefresh : job.config.refresh = false)
    (hverifies : job.config.verifyChecksums = true) (hdistinct : listing.Distinct)
    (hfound : (discover job.naming job.config.scriptDirectory listing).result = .ok scripts)
    {t : Trace σ MigrationError Report} (ht : t = Task.trace session (job.run listing) start)
    (hpresent : answered job.timeout job.ledger.listTables t.sent ≠ [])
    (hread : ∃ e ∈ t.sent, e.statement = job.ledger.selectRows.withTimeout job.timeout ∧
      e.Succeeded job.timeout)
    (hrows : answered job.timeout job.ledger.selectRows t.sent = rows)
    {records : List AppliedScript} (hdecodes : job.ledger.decodeRows rows = .ok records) :
    Verdict session job listing scripts rows start t := by
  obtain ⟨hne, tables, htables, htables', hreading⟩ :=
    reading_of_sent hrefresh hfound ht hpresent hread
  rw [hrows] at hreading
  have hrun := trace_run_of_tables session hrefresh hfound hne htables htables'
  rw [← ht] at hrun
  -- what has been read decides
  have hresult : ∀ name table, t.result = .error (.modified name table) ↔
      job.duty scripts rows = .error (.modified name table) := by
    intro name table
    simp only [hrun, closed_eq_modified]
    constructor
    · intro hmodified
      rcases error_cases_of_resume hmodified with
        ⟨reason, herror⟩ | ⟨rows', hok, hduty, -⟩ | hscript
      · cases herror
      · obtain rfl : rows' = rows := congrArg Answer.rows (Except.ok.inj (hok.symm.trans hreading))
        exact hduty
      · exact hscript.elim
    · intro hduty
      rw [resume_of_duty_error session hreading hduty]
  refine ⟨?_, ?_⟩
  · simp only [hresult]
    exact duty_modified_iff_changed hverifies hdistinct hfound hdecodes
  · intro name table hmodified
    have hduty := (hresult name table).mp hmodified
    simp only [resume_of_duty_error session hreading hduty] at hrun
    refine ⟨(duty_eq_modified.mp hduty).1, leastChanged_of_duty hverifies hdistinct hfound hduty,
      ?_, ?_⟩
    · rw [hrun, session.ask_sent, session.ask_sent]
      rfl
    · intro fate view hkeeps
      obtain ⟨hlisted, hmoment⟩ := hkeeps.ask_query (.inl rfl) job.ledger.bootstrapError start
      obtain ⟨hread, hmoment'⟩ := hkeeps.ask_query (.inr rfl)
        (MigrationError.ledgerRead job.ledger.qualified)
        (session.ask job.timeout job.ledger.listTables job.ledger.bootstrapError start).state
      simp only [Ledger.Request.statement] at hlisted hmoment hread hmoment'
      rw [hlisted] at hread hmoment'
      rw [hrun]
      refine ⟨(hkeeps.closed _).trans hread, ?_⟩
      intro e he
      rcases List.mem_append.mp he with he | he
      · exact hmoment e he
      · exact hmoment' e he

end Job

/-! ## Many runs -/

namespace Run

variable {fate : FailedWrite} {r : Run fate} {l : Ledger}

/-- If a run reports a changed script, then a row behind its bootstrap differs from a script that it
has found. -/
theorem differs_of_modified {name table : String}
    (h : r.trace.result = .error (.modified name table)) :
    r.Begins ∧ ∃ row ∈ r.job.rowsIn r.view r.bootstrap.state, row.Differs r.found := by
  rcases r.trace_cases with ⟨-, -, close, hnone⟩ | ⟨-, other, -, hother⟩ | ⟨scripts, hfound, hne⟩
  · rw [hnone, Job.closed_eq_modified] at h
    cases h
  · cases h.symm.trans hother
  · refine ⟨⟨scripts, hfound, hne⟩, ?_⟩
    rw [found_of_ok hfound]
    rcases bootstrap_cases hfound hne with ⟨error, hfails, hresult, -⟩ | ⟨action, hpast⟩
    · obtain ⟨reason, hreason⟩ := Ledger.error_of_bootstrap r.keeps hfails
      rw [hreason] at hresult
      cases h.symm.trans hresult
    · obtain ⟨-, -, close, hresult⟩ := trace_of_bootstrap hfound hne hpast
      rw [hresult, Job.closed_eq_modified] at h
      rcases Job.error_cases_of_resume h with ⟨reason, herror⟩ | ⟨rows, hread, hduty, -⟩ | hscript
      · cases herror
      · obtain ⟨-, records, names, hdecodes, hfirst⟩ := Job.duty_eq_modified.mp hduty
        have hperm := Job.perm_of_ask_selectRows r.keeps hread
        exact Ledger.differs_of_modifiedNames hperm hdecodes
          (hfirst ▸ List.mem_cons_self : name ∈ _)
      · exact hscript.elim

/-- The same if a status does; it is then a row of the ledger as it is. -/
theorem differs_of_status {status : Status} (h : r.status.result = .ok status)
    (hmodified : status.modified ≠ []) :
    ∃ row ∈ r.job.ledger.storedRows r.before, row.Differs r.found := by
  obtain ⟨scripts, hfound⟩ := discovered_of_status h
  rw [found_of_ok hfound]
  rw [status_eq hfound] at h
  have hbody := Job.closed_eq_ok h
  obtain ⟨-, -, ⟨error, herror⟩ | ⟨-, hok⟩ | ⟨-, rows, hperm, hsurvey⟩⟩ :=
    Job.inspectScripts_cases r.keeps scripts r.start
  · cases hbody.symm.trans herror
  · rw [Except.ok.inj (hbody.symm.trans hok)] at hmodified
    exact absurd rfl hmodified
  · rw [hsurvey, Job.survey] at hbody
    rcases hdecodes : r.job.ledger.decodeRows rows with error | records
    · simp [hdecodes, Except.map] at hbody
    · simp only [hdecodes, Except.map, Except.ok.injEq] at hbody
      rw [← hbody] at hmodified
      obtain ⟨name, hname⟩ := List.exists_mem_of_ne_nil _ hmodified
      exact Ledger.differs_of_modifiedNames hperm hdecodes hname

/-- The row is among those that the run has added. A run that drops the ledger has added all that it
leaves. -/
def Adds (r : Run fate) (row : StoredRow) : Prop :=
  (r.Drops ∧ row ∈ r.job.ledger.storedRows r.after) ∨
    (¬ r.Drops ∧ row ∈ (r.job.ledger.storedRows r.after).drop
      (r.job.ledger.storedRows r.before).length)

/-- The row has been added by one of the runs, latest first, and not been dropped since. Then the
file of its name had this text. -/
inductive AppliedAs : List (Run fate) → StoredRow → String → Prop where
  | added {r : Run fate} {runs : List (Run fate)} {row : StoredRow} {text : String}
      (hadds : r.Adds row) (hholds : r.listing.Holds row.name text) : AppliedAs (r :: runs) row text
  | kept {r : Run fate} {runs : List (Run fate)} {row : StoredRow} {text : String}
      (hkept : ¬ r.Drops) (h : AppliedAs runs row text) : AppliedAs (r :: runs) row text

/-- Files with a row have the texts that they had when they were applied. Files may be missing. -/
def Faithful (listing : Listing) (runs : List (Run fate)) : Prop :=
  ∀ row text, AppliedAs runs row text → ∀ text', listing.Holds row.name text' → text' = text

/-- Each of the runs, latest first, has found the files with rows as they were, unless it has
dropped the rows. -/
def Unedited : List (Run fate) → Prop
  | [] => True
  | r :: runs => (¬ r.Drops → Faithful r.listing runs) ∧ Unedited runs

/-- A checksum in the row is that of the file that has been applied. -/
def Attested (runs : List (Run fate)) (row : StoredRow) : Prop :=
  ∀ expected, row.checksum = some expected →
    ∃ text, AppliedAs runs row text ∧ expected = Sha256.checksum text

/-- A row that is added by a run is attested by the file that the run has found. -/
theorem attested_of_adds {script : Script} (hscript : script ∈ r.found)
    (hadds : r.Adds (r.job.ledger.storedRow script)) (runs : List (Run fate)) :
    Attested (r :: runs) (r.job.ledger.storedRow script) := by
  intro expected hexpected
  obtain ⟨-, -, text, hholds, htext⟩ := holds_of_discover (discovered_of_mem_found hscript) hscript
  refine ⟨text, .added hadds hholds, ?_⟩
  simp only [Ledger.storedRow] at hexpected
  split at hexpected
  · exact (Option.some.inj hexpected).symm.trans htext
  · cases hexpected

/-- In an attested row nothing differs from files that are as they were. -/
theorem not_differs_of_faithful {runs : List (Run fate)} {row : StoredRow}
    (hattested : Attested runs row) (hfaithful : Faithful r.listing runs) :
    ¬ row.Differs r.found := by
  rintro ⟨expected, hexpected, script, hscript, hname, hdiffers⟩
  obtain ⟨text, happlied, rfl⟩ := hattested expected hexpected
  obtain ⟨-, -, text', hholds, htext⟩ := holds_of_discover (discovered_of_mem_found hscript) hscript
  rw [hname] at hholds
  rw [htext, hfaithful row text happlied text' hholds] at hdiffers
  exact hdiffers rfl

/-- All rows stay attested. -/
theorem History.attested {start s : Store} {runs : List (Run fate)} (h : History l start runs s)
    (habsent : l.tables? start = .none) (hleaves : ∀ r ∈ runs, r.LeavesLedger) :
    ∀ row ∈ l.storedRows s, Attested runs row := by
  induction h with
  | none =>
      rw [Ledger.storedRows_of_none (Ledger.stored?_of_tables?_none habsent)]
      simp
  | run r hfor before ih =>
      obtain ⟨hthis, hothers⟩ := List.forall_mem_cons.mp hleaves
      have hbefore := ih hothers
      simp only [← hfor.storedRows_eq] at hbefore ⊢
      by_cases hdrops : r.Drops
      · -- all rows are the run's own
        obtain ⟨added, hadded, hend⟩ := rows_of_drops hthis hdrops
        intro row hrow
        have hadds : r.Adds row := .inl ⟨hdrops, hrow⟩
        rw [hend] at hrow
        obtain ⟨script, hscript, rfl⟩ := List.mem_map.mp hrow
        exact attested_of_adds (List.mem_of_mem_filter (hadded.subset hscript)) hadds _
      · obtain ⟨added, hadded, hend, -⟩ := growth hthis hdrops
        intro row hrow
        rw [hend] at hrow
        rcases List.mem_append.mp hrow with hrow | hrow
        · -- an old row keeps what attests it
          intro expected hexpected
          obtain ⟨text, happlied, htext⟩ := hbefore row hrow expected hexpected
          exact ⟨text, .kept hdrops happlied, htext⟩
        · have hadds : r.Adds row := by
            refine .inr ⟨hdrops, ?_⟩
            rw [hend, List.drop_left]
            exact hrow
          obtain ⟨script, hscript, rfl⟩ := List.mem_map.mp hrow
          exact attested_of_adds (List.mem_of_mem_filter (hadded.subset hscript)) hadds _

/-- Whatever has happened to the runs since the keyspace was absent, as long as
files with a row are as they were when they were applied, neither a run nor a status reports a
changed script. -/
theorem History.not_modified {start s : Store} {runs : List (Run fate)}
    (h : History l start runs s) (habsent : l.tables? start = .none)
    (hleaves : ∀ r ∈ runs, r.LeavesLedger) (hunedited : Unedited runs) :
    (∀ r ∈ runs, ∀ name table, r.trace.result ≠ .error (.modified name table)) ∧
      ∀ look : Run fate, look.For l → look.before = s → Faithful look.listing runs →
        ∀ status, look.status.result = .ok status → status.modified = [] := by
  refine ⟨?_, ?_⟩
  · induction h with
    | none => simp
    | run r hfor before ih =>
        obtain ⟨hthis, hothers⟩ := List.forall_mem_cons.mp hleaves
        refine List.forall_mem_cons.mpr ⟨?_, ih hothers hunedited.2⟩
        intro name table hmodified
        obtain ⟨hbegins, row, hrow, hdiffers⟩ := differs_of_modified hmodified
        by_cases hdrops : r.Drops
        · rw [rows_behind_drop hdrops] at hrow
          cases hrow
        · -- the row was there before the run, so earlier runs attest it
          rw [(rows_behind_bootstrap hbegins hdrops).1, hfor.storedRows_eq] at hrow
          exact not_differs_of_faithful (before.attested habsent hothers row hrow)
            (hunedited.1 hdrops) hdiffers
  · rintro look hfor rfl hfaithful status hstatus
    by_contra hmodified
    obtain ⟨row, hrow, hdiffers⟩ := differs_of_status hstatus hmodified
    rw [hfor.storedRows_eq] at hrow
    exact not_differs_of_faithful (h.attested habsent hleaves row hrow) hfaithful hdiffers

/-- Files that nobody has touched since the first run are what they were. -/
theorem faithful_of_same {listing : Listing} (hdistinct : listing.Distinct) {runs : List (Run fate)}
    (hsame : ∀ r ∈ runs, r.listing = listing) : Faithful listing runs := by
  intro row text happlied text' hholds
  induction happlied with
  | added hadds hholds' =>
      rw [hsame _ List.mem_cons_self] at hholds'
      exact hholds.unique hdistinct hholds'
  | kept hkept h ih => exact ih (List.forall_mem_cons.mp hsame).2 hholds

/-- **Checksums.** For any session and any rows that are records, a verifying run finds what has
changed, and does nothing if it has. Over the runs since the keyspace was absent, what is found has
been edited after it was applied. -/
theorem verification_sound_complete :
    (∀ {σ : Type} (session : Session σ) (job : Job) (listing : Listing) (start : σ),
      job.config.refresh = false → job.config.verifyChecksums = true → listing.Distinct →
      ∀ scripts, (discover job.naming job.config.scriptDirectory listing).result = .ok scripts →
      let t := Task.trace session (job.run listing) start
      answered job.timeout job.ledger.listTables t.sent ≠ [] →
      (∃ e ∈ t.sent, e.statement = job.ledger.selectRows.withTimeout job.timeout ∧
        e.Succeeded job.timeout) →
      ∀ rows, answered job.timeout job.ledger.selectRows t.sent = rows →
      ∀ records, job.ledger.decodeRows rows = .ok records →
        Job.Verdict session job listing scripts rows start t) ∧
    ∀ {fate : FailedWrite} (l : Ledger) (start s : Store) (runs : List (Run fate)),
      l.tables? start = .none → History l start runs s → (∀ r ∈ runs, r.LeavesLedger) →
      Unedited runs →
      (∀ r ∈ runs, ∀ name table, r.trace.result ≠ .error (.modified name table)) ∧
        ∀ look : Run fate, look.For l → look.before = s → Faithful look.listing runs →
          ∀ status, look.status.result = .ok status → status.modified = [] := by
  refine ⟨?_, ?_⟩
  · intro σ session job listing start hrefresh hverifies hdistinct scripts hfound t hpresent hread
      rows hrows records hdecodes
    exact Job.verdict hrefresh hverifies hdistinct hfound rfl hpresent hread hrows hdecodes
  · intro fate l start s runs habsent hhistory hleaves hunedited
    exact hhistory.not_modified habsent hleaves hunedited

end Run

namespace Sample

/-- The job with verification. -/
def verifying : Job :=
  { job with config := { job.config with verifyChecksums := true } }

theorem verifying_hasColumn : Text.occursIn "checksum".toList
    verifying.ledger.createTable.text.toList = verifying.ledger.checksums := by
  decide

/-- A run with verification over the directory. -/
def verifyingRun (refuses : Statement → Bool) (start : Store) : Run .undone where
  σ := Store
  session := Store.refusing .cql refuses
  view := id
  start := start
  job := verifying
  listing := listing
  keeps := Store.refusing_keeps .undone .cql refuses verifying_hasColumn verifying.timeout

theorem verifying_leavesLedger (refuses : Statement → Bool) (start : Store) :
    (verifyingRun refuses start).LeavesLedger :=
  leavesLedger refuses start

/-- The store with a row for the first script, but not with its checksum. -/
def edited : Store :=
  ⟨[("orders", [("migrated_cql", ⟨true, [⟨1, "V001__a.cql", some "0"⟩]⟩)])]⟩

theorem trace_verifying (start : Store) :
    Task.trace (Store.session .cql) (verifying.run listing) start =
      Task.trace (Store.session .cql) (verifying.migrateScripts scripts) start :=
  Job.trace_run_of_closes (Store.session .cql) verifying (fun _ => rfl)
    (discovered (fun _ => false) start) (List.cons_ne_nil _ _) start

end Sample

namespace Run

/-- A verifying run over a row with another checksum, and two runs with a status behind them. -/
theorem verification_sound_complete_sample :
    let t := Task.trace (Store.session .cql) (Sample.verifying.run Sample.listing) Sample.edited
    let rows := [[Cell.int 1, .text "V001__a.cql", .text "0"]]
    let first := Sample.verifyingRun (fun s => s.text = "SELECT 2") Store.empty
    let second := Sample.verifyingRun (fun _ => false) first.after
    let look := Sample.verifyingRun (fun _ => false) second.after
    (Job.Verdict (Store.session .cql) Sample.verifying Sample.listing Sample.scripts rows
        Sample.edited t ∧ ∃ name table, t.result = .error (.modified name table)) ∧
      (∀ r ∈ [second, first], ∀ name table, r.trace.result ≠ .error (.modified name table)) ∧
        ∀ status, look.status.result = .ok status → status.modified = [] := by
  intro t rows first second look
  refine ⟨?_, ?_⟩
  · have htrace : t = _ := Sample.trace_verifying Sample.edited
    have hpresent : answered Sample.verifying.timeout Sample.verifying.ledger.listTables t.sent ≠
        [] := by
      rw [htrace]
      decide +kernel
    have hread : ∃ e ∈ t.sent, e.statement =
        Sample.verifying.ledger.selectRows.withTimeout Sample.verifying.timeout ∧
          e.Succeeded Sample.verifying.timeout := by
      rw [htrace]
      decide +kernel
    have hrows : answered Sample.verifying.timeout Sample.verifying.ledger.selectRows t.sent =
        rows := by
      rw [htrace]
      decide +kernel
    have hverdict := verification_sound_complete.1 (Store.session .cql) Sample.verifying
      Sample.listing Sample.edited rfl rfl Sample.distinct Sample.scripts
      (Sample.discovered (fun _ => false) Sample.edited) hpresent hread rows hrows
      [⟨1, "V001__a.cql", some "0"⟩] (by decide)
    refine ⟨hverdict, hverdict.modified_iff.mpr ⟨_, List.mem_cons_self, "0", rfl, Sample.scripts[0],
      List.getElem_mem _, rfl, "SELECT 1;", ?_, by decide +kernel⟩⟩
    exact ⟨_, _, rfl, List.mem_cons_self, rfl⟩
  · have hhistory : History Sample.verifying.ledger Store.empty [second, first] second.after :=
      .run second ⟨rfl, rfl⟩ (.run first ⟨rfl, rfl⟩ .none)
    have hleaves : ∀ r ∈ [second, first], r.LeavesLedger := by
      simp only [List.forall_mem_cons, List.not_mem_nil, false_implies, implies_true, and_true]
      exact ⟨Sample.verifying_leavesLedger _ _, Sample.verifying_leavesLedger _ _⟩
    have hsame : ∀ runs : List (Run .undone), (∀ r ∈ runs, r.listing = Sample.listing) →
        Faithful Sample.listing runs := fun runs => faithful_of_same Sample.distinct
    have hunedited : Unedited [second, first] :=
      ⟨fun _ => hsame [first] (by simp [first, Sample.verifyingRun]), fun _ => hsame [] (by simp),
        trivial⟩
    obtain ⟨hruns, hlook⟩ := verification_sound_complete.2 Sample.verifying.ledger Store.empty
      second.after [second, first] rfl hhistory hleaves hunedited
    refine ⟨hruns, hlook look ⟨rfl, rfl⟩ rfl (hsame _ ?_)⟩
    simp [first, second, Sample.verifyingRun]

end Run

end SchemaMigration
