import SchemaMigration.Log.Filter
import SchemaMigration.Proofs.Closing
import SchemaMigration.Proofs.CommandLine.Configuration
import SchemaMigration.Proofs.Migration.Inspection
import SchemaMigration.Proofs.Sql.Catalogue
import SchemaMigration.Proofs.Sql.Reading

/-!
# The status command

A status changes nothing: not the database that it looks into, and no file. For a database file that
is not there yet it tells what the first run would begin with.

* `connect_readOnly`: what a status opens, and that opening it leaves the files alone.
* `Command.execute_of_connected`: a command is its course with the open database.
* `Command.shown_of_connected`: what it shows of its log.
* `Job.trace_status_empty`: a status over a database with nothing in it.
* `Command.status_changes_nothing`: the status command over all files and configurations.
-/

namespace SchemaMigration

/-! ## What a status opens -/

/-- A database that is opened to be read is only looked into, or there is nothing in it. No file is
touched for it, now or later. -/
theorem connect_readOnly {files : Files} {config : DatabaseConfig} {lines : List Log.Line}
    {c : Connected} (h : connect files config .readOnly = (lines, .ok c)) :
    c.files = files ∧ c.keeper = none ∧
      (c.engine.readOnly = true ∨ c = Connection.inMemory files) := by
  unfold connect at h
  rcases hbackend : config.backend with _ | _ <;> simp only [hbackend] at h
  · unfold Connection.openToRead at h
    split at h
    · cases h
      exact ⟨rfl, rfl, .inr rfl⟩
    · split at h
      · rcases hread : Connection.openReadOnly files config.path with fault | opened
        · simp [hread, Except.mapError] at h
        · simp only [hread, Except.mapError, Prod.mk.injEq, Except.ok.injEq] at h
          obtain ⟨-, rfl⟩ := h
          unfold Connection.openReadOnly at hread
          split at hread
          · split at hread
            · cases hread
              exact ⟨rfl, rfl, .inl rfl⟩
            · cases hread
          · cases hread
      · cases h
        exact ⟨rfl, rfl, .inr rfl⟩
  · cases h

/-- For a file that is not there, an empty database in memory stands in. -/
theorem connect_missing {files : Files} {config : DatabaseConfig}
    (hbackend : config.backend = .duckdb) (hmissing : files.existsAt config.path = false) :
    ∃ lines, connect files config .readOnly = (lines, .ok (Connection.inMemory files)) := by
  unfold connect
  simp only [hbackend, Connection.openToRead, hmissing, Bool.false_eq_true, if_false]
  split <;> exact ⟨_, rfl⟩

/-! ## A status over a database with nothing in it -/

namespace Job

/-- It finds no table to tell of, and all scripts but those of version 0 are pending. -/
theorem trace_status_empty (job : Job) (hdialect : job.dialect = .duckdb)
    (htimeout : 1 ≤ job.timeout) (files : Files) (listing : Listing) :
    let memory := Connection.inMemory files
    let t := Task.trace memory.session (job.status listing) memory.start
    t.state.database = memory.database ∧
      t.result = match (discover job.naming job.config.scriptDirectory listing).result with
        | .error error => .error (.discovery error)
        | .ok scripts => .ok (job.statusOf scripts false []) := by
  intro memory t
  have hclosing : t = _ := trace_closingAfter memory.session (job.inspect listing) memory.start
  rw [trace_inspect] at hclosing
  rcases hfound : (discover job.naming job.config.scriptDirectory listing).result with
    error | scripts
  · rw [hfound] at hclosing
    rw [hclosing]
    exact ⟨rfl, rfl⟩
  · have hsend := Sql.Engine.send_listTables_empty (l := job.ledger) files hdialect job.timeout
    have hrows : Reply.rows? job.timeout ⟨1, .ok (.ofRows [])⟩ = some [] := by
      simp [Reply.rows?, Nat.not_lt.mpr htimeout, Answer.ofRows]
    obtain ⟨sent, hask⟩ : ∃ sent, memory.session.ask job.timeout job.ledger.listTables
        (MigrationError.ledgerRead job.ledger.qualified) memory.start =
          ⟨.ok (.ofRows []), memory.start, sent⟩ := by
      simp only [Session.ask, memory, hsend, hrows]
      exact ⟨_, rfl⟩
    rw [hfound] at hclosing
    simp only [inspectScripts, hask] at hclosing
    rw [hclosing]
    exact ⟨rfl, rfl⟩

end Job

/-! ## The command -/

namespace CommandLine

/-- The course of a command with a database that is open. -/
def Command.course (command : Command) (c : Connected) (config : Config) (started : Nat) :
    Dialogue.Course Sql.Engine.State (Except CommandError String) :=
  (command.action.task command.output (Job.ofConfig config c.session.dialect started)
    (Listing.ofFiles c.files config.scriptDirectory)).play c.session c.start

/-- What a command does is the course with the database that it opens. -/
theorem Command.execute_of_connected (command : Command) {files : Files} {config : Config}
    {lines : List Log.Line} {c : Connected}
    (h : connect files config.database command.action.access = (lines, .ok c)) (started : Nat) :
    let course := command.course c config started
    command.execute files config started = ⟨course.result,
      (connectingLine config command.action.access :: lines) ++ course.lines c.session.backend,
      c.release course.state⟩ := by
  simp only [Command.execute, h]
  rfl

/-- Without a filter from the environment, verbose or not, a command shows nothing of the lines about
the statements that it sends. -/
theorem Command.shown_of_connected (command : Command) {files : Files} {config : Config}
    {lines : List Log.Line} {c : Connected}
    (h : connect files config.database command.action.access = (lines, .ok c)) (started : Nat)
    (verbose : Bool) :
    let shows := (Log.Filter.ofProcess none verbose).admits
    (command.execute files config started).logs.filter shows =
      (connectingLine config command.action.access :: lines).filter shows ++
        (command.course c config started).logs.filter shows := by
  intro shows
  have hhidden : ∀ statement,
      shows (Dialogue.sendingLine c.session.backend statement) = false := by
    intro statement
    cases verbose <;> rfl
  rw [command.execute_of_connected h, List.filter_append, Dialogue.Course.filter_lines hhidden]

/-- The course of a status is that of the job's task, whose result is printed. -/
theorem Command.course_of_status {command : Command} (haction : command.action = .status)
    (c : Connected) (config : Config) (started : Nat) :
    let job := Job.ofConfig config c.session.dialect started
    let t := Task.trace c.session (job.status (Listing.ofFiles c.files config.scriptDirectory))
      c.start
    (command.course c config started).result =
        (t.result.map (printStatus command.output)).mapError .status ∧
      (command.course c config started).state = t.state := by
  unfold Command.course Action.task
  simp only [haction]
  exact Dialogue.play_bind c.session _ _ c.start

/-- No file is changed for a status. -/
theorem Command.files_execute {command : Command} (haction : command.action = .status)
    (files : Files) (config : Config) (started : Nat) :
    (command.execute files config started).files = files := by
  rcases hconnect : connect files config.database .readOnly with ⟨lines, error | c⟩
  · have haccess : connect files config.database command.action.access =
        (lines, .error error) := by rw [haction]; exact hconnect
    simp only [Command.execute, haccess]
  · obtain ⟨hfiles, hkeeper, -⟩ := connect_readOnly hconnect
    have haccess : connect files config.database command.action.access = (lines, .ok c) := by
      rw [haction]
      exact hconnect
    rw [command.execute_of_connected haccess]
    simp only [Connected.release, hkeeper, hfiles]

/-- The database is at the end of a status as it was. -/
theorem Command.database_course {command : Command} (haction : command.action = .status)
    {files : Files} {config : Config} (htimeout : 1 ≤ config.timeout) {lines : List Log.Line}
    {c : Connected} (h : connect files config.database .readOnly = (lines, .ok c))
    (started : Nat) : (command.course c config started).state.database = c.database := by
  obtain ⟨-, -, hreadOnly | rfl⟩ := connect_readOnly h
  -- only what is open to be read refuses writes, and in memory none is sent
  · exact Sql.Engine.database_play hreadOnly _ c.start
  · rw [(command.course_of_status haction _ config started).2]
    exact ((Job.ofConfig config _ started).trace_status_empty rfl htimeout files _).1

/-- What is told of a database file that is not there: the keyspace is absent, nothing is applied,
and the scripts are to be applied in the order of their discovery, but for those of version 0. -/
def absentStatus (config : Config) (scripts : List Script) : Status where
  keyspace := config.keyspace.text
  keyspacePresent := false
  lastApplied := Version.none
  applied := []
  pending := scripts.filter fun script => 1 ≤ script.version
  modified := []

/-- A status of a database file that is not there succeeds if the scripts can be discovered. -/
theorem Command.result_execute_missing {command : Command} (haction : command.action = .status)
    {files : Files} {config : Config} (htimeout : 1 ≤ config.timeout)
    (hbackend : config.database.backend = .duckdb)
    (hmissing : files.existsAt config.database.path = false) (started : Nat) :
    (command.execute files config started).result =
      match (discover .standard config.scriptDirectory
        (Listing.ofFiles files config.scriptDirectory)).result with
      | .error error => .error (.status (.discovery error))
      | .ok scripts => .ok (printStatus command.output (absentStatus config scripts)) := by
  obtain ⟨lines, hconnect⟩ := connect_missing hbackend hmissing
  have haccess : connect files config.database command.action.access =
      (lines, .ok (Connection.inMemory files)) := by
    rw [haction]
    exact hconnect
  let memory := Connection.inMemory files
  let listing := Listing.ofFiles files config.scriptDirectory
  have htrace : (Task.trace memory.session
      ((Job.ofConfig config .duckdb started).status listing) memory.start).result =
        match (discover .standard config.scriptDirectory listing).result with
        | .error error => .error (.discovery error)
        | .ok scripts => .ok (absentStatus config scripts) :=
    ((Job.ofConfig config .duckdb started).trace_status_empty rfl htimeout files listing).2
  rw [command.execute_of_connected haccess]
  refine (command.course_of_status haction memory config started).1.trans ?_
  refine (congrArg (fun outcome : Except MigrationError Status =>
    (outcome.map (printStatus command.output)).mapError CommandError.status) htrace).trans ?_
  rcases (discover .standard config.scriptDirectory listing).result with error | scripts <;> rfl

/-- A status changes nothing. Whatever the directory, the configuration and the session are, it
sends two queries at most, of which the second one reads the ledger if the first one has told of a
table, and it closes the session once. The command touches no file and leaves its database as it
was. If there is no database file yet, it tells that the keyspace is absent, that nothing is applied
and that all scripts but those of version 0 are pending. -/
theorem Command.status_changes_nothing :
    (∀ (σ : Type) (session : Session σ) (job : Job) (listing : Listing) (state : σ),
      let course := (job.status listing).run.play session state
      let sent := (job.status listing).run.exchanges session state
      course.statements = sent.map (·.statement) ∧ job.Looks listing sent ∧ sent.length ≤ 2 ∧
        (∀ e ∈ sent, e.statement.kind = .query) ∧ course.closings = 1) ∧
    ∀ (command : Command) (files : Files) (started : Nat), command.action = .status →
      (command.run files started).files = files ∧
      ∀ config, loadConfig files command.options = .ok config →
        config.database.backend = .duckdb →
          (∀ lines c, connect files config.database .readOnly = (lines, .ok c) →
            (command.course c config started).state.database = c.database) ∧
          (files.existsAt config.database.path = false → ∀ text,
            (command.run files started).result = .ok text ↔
              ∃ scripts, (discover .standard config.scriptDirectory
                  (Listing.ofFiles files config.scriptDirectory)).result = .ok scripts ∧
                text = printStatus command.output (absentStatus config scripts)) := by
  refine ⟨fun σ session job listing state => ?_, fun command files started haction => ⟨?_, ?_⟩⟩
  · have hlooks := job.looks_status session listing state
    exact ⟨Dialogue.statements_play session (job.status listing).run state, hlooks,
      hlooks.length_le, hlooks.kind_eq, (job.endsSession_status listing).closings session state⟩
  · unfold Command.run
    split
    · rfl
    · exact files_execute haction files _ started
  · intro config hconfig hbackend
    have htimeout := timeout_of_loadConfig hconfig
    refine ⟨fun lines c h => database_course haction htimeout h started, fun hmissing text => ?_⟩
    have hresult := result_execute_missing haction htimeout hbackend hmissing started
    have hrun : command.run files started = command.execute files config started := by
      simp only [Command.run, hconfig]
    rw [hrun, hresult]
    rcases hfound : (discover .standard config.scriptDirectory
      (Listing.ofFiles files config.scriptDirectory)).result with error | scripts
    · simp
    · simp [eq_comm]

namespace Sample

/-- A directory with a script of version 0 and another one, and no database. -/
def files : Files where
  entries := [(["cql"], .directory), (["cql", "V000__base.cql"], .file "SELECT 0;".toUTF8),
    (["cql", "V001__a.cql"], .file "SELECT 1;".toUTF8)]

/-- A status of the keyspace `orders` in a database that is to be. -/
def command : Command where
  action := .status
  output := .table
  options := { keyspace := some "orders", scriptDirectory := some "cql" }

/-- The scripts of the directory. -/
def scripts : List Script :=
  [Script.ofContents 0 "V000__base.cql" "cql/V000__base.cql" "SELECT 0;",
    Script.ofContents 1 "V001__a.cql" "cql/V001__a.cql" "SELECT 1;"]

theorem loadConfig_command :
    loadConfig files command.options = .ok SchemaMigration.Sample.job.config := rfl

theorem missing : files.existsAt "cqlmigrate.duckdb" = false := by
  decide +kernel

theorem discovered : (discover .standard "cql" (Listing.ofFiles files "cql")).result =
    .ok scripts := by
  have hlisting : Listing.ofFiles files "cql" = .entries
      [("V000__base.cql", .file "SELECT 0;".toUTF8), ("V001__a.cql", .file "SELECT 1;".toUTF8)] :=
    rfl
  have hcandidates : candidates .standard [("V000__base.cql", .file "SELECT 0;".toUTF8),
      ("V001__a.cql", .file "SELECT 1;".toUTF8)] =
      [("V000__base.cql", "SELECT 0;".toUTF8), ("V001__a.cql", "SELECT 1;".toUTF8)] :=
    List.mergeSort_of_pairwise (by decide)
  have hread : readScripts .standard "cql" [("V000__base.cql", "SELECT 0;".toUTF8),
      ("V001__a.cql", "SELECT 1;".toUTF8)] = .ok scripts := rfl
  simp only [hlisting, discover, hcandidates, hread]

end Sample

/-- The status of a keyspace before its first run. -/
theorem Command.status_changes_nothing_sample :
    let ran := Sample.command.run Sample.files 0
    ran.files = Sample.files ∧ ran.result = .ok ("Keyspace orders: absent\n\nPending:\n" ++
      "VERSION  NAME\n-------  -----------\nv001     V001__a.cql\n") := by
  have hcommand := status_changes_nothing.2 Sample.command Sample.files 0 rfl
  have hmissing := (hcommand.2 _ Sample.loadConfig_command rfl).2 Sample.missing
  exact ⟨hcommand.1, (hmissing _).mpr ⟨Sample.scripts, Sample.discovered, by decide +kernel⟩⟩

end CommandLine

end SchemaMigration
