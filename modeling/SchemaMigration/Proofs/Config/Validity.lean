import SchemaMigration.Proofs.Config.Resolution
import SchemaMigration.Proofs.Identifier

/-!
# Which layers are configurations

A layer is a configuration if what it sets is valid and what has no default is set. The rules stand
in an order, and the first one that is broken decides how a layer is refused.

* `Rule.FirstBroken`: the error of the first broken rule of a list.
* `Layer.rules`: the rules for a layer in their order.
* `Layer.Valid`: what they ask for together.
* `Config.CarriesOver`: a configuration made of what a layer sets and of the defaults.
* `Config.obeyed_resolve`: a layer is refused with the error of the first rule that it breaks.
* `Config.resolve_exact`: the valid layers are the ones that are accepted, and what becomes of them.
-/

namespace SchemaMigration

/-! ## Rules in order -/

/-- A rule, and the error about what breaks it. -/
structure Rule where
  holds : Prop
  error : ConfigError

namespace Rule

/-- The first rule of a list that does not hold is the one with this error. -/
def FirstBroken : List Rule → ConfigError → Prop
  | [], _ => False
  | rule :: rules, e => ¬rule.holds ∧ e = rule.error ∨ rule.holds ∧ FirstBroken rules e

/-- A computation that fails exactly if a rule is broken, with the error of the first one. -/
def Obeyed {α : Type} (x : Except ConfigError α) (rules : List Rule) : Prop :=
  ∀ e, x = .error e ↔ FirstBroken rules e

variable {rules later : List Rule} {e : ConfigError}

theorem firstBroken_append : FirstBroken (rules ++ later) e ↔
    FirstBroken rules e ∨ (∀ rule ∈ rules, rule.holds) ∧ FirstBroken later e := by
  induction rules with
  | nil => simp [FirstBroken]
  | cons rule rules ih =>
    simp only [List.cons_append, FirstBroken, ih, List.forall_mem_cons]
    tauto

theorem exists_firstBroken_iff :
    (∃ e, FirstBroken rules e) ↔ ¬∀ rule ∈ rules, rule.holds := by
  induction rules with
  | nil => simp [FirstBroken]
  | cons rule rules ih =>
    simp only [FirstBroken, List.forall_mem_cons, exists_or, exists_and_left, ih, exists_eq,
      and_true]
    tauto

/-- A value that is not set breaks no rule. -/
def forValue {α : Type} (value? : Option α) (holds : α → Prop) (error : α → ConfigError) :
    List Rule :=
  value?.toList.map fun value => ⟨holds value, error value⟩

theorem forall_mem_forValue {α : Type} {value? : Option α} {holds : α → Prop}
    {error : α → ConfigError} :
    (∀ rule ∈ forValue value? holds error, rule.holds) ↔ ∀ value ∈ value?, holds value := by
  simp [forValue]

namespace Obeyed

variable {α β : Type} {x : Except ConfigError α} {f : α → Except ConfigError β}

theorem ok (a : α) : Obeyed (.ok a) [] := by
  simp [Obeyed, FirstBroken]

/-- Of two computations one after the other, the second only runs if the rules of the first hold. -/
theorem bind (hx : Obeyed x rules) (hf : ∀ a, x = .ok a → Obeyed (f a) later) :
    Obeyed (x >>= f) (rules ++ later) := by
  intro e
  rw [firstBroken_append]
  rcases x with error | a
  · have hfirst := (hx error).mp rfl
    have hbroken : ¬∀ rule ∈ rules, rule.holds := exists_firstBroken_iff.mp ⟨error, hfirst⟩
    change (.error error : Except ConfigError β) = .error e ↔ _
    simpa [hbroken] using hx e
  · have hnone : ¬FirstBroken rules e := fun hfirst => nomatch (hx e).mpr hfirst
    have hall : ∀ rule ∈ rules, rule.holds := by
      by_contra hbroken
      obtain ⟨error, hfirst⟩ := exists_firstBroken_iff.mpr hbroken
      cases (hx error).mpr hfirst
    change f a = .error e ↔ _
    rw [iff_false_intro hnone, false_or, and_iff_right hall]
    exact hf a rfl e

/-- It succeeds exactly if all rules hold. -/
theorem exists_ok_iff (hx : Obeyed x rules) :
    (∃ a, x = .ok a) ↔ ∀ rule ∈ rules, rule.holds := by
  rw [← not_not (a := ∀ rule ∈ rules, rule.holds), ← exists_firstBroken_iff]
  simp only [← hx _]
  rcases x with error | a
  · simp
  · simp

end Obeyed

end Rule

/-! ## The rules for names -/

namespace Name

/-- The rules for a name. -/
def rules (kind : NameKind) (s : String) : List Rule :=
  [⟨s ≠ "", .identifier ⟨kind, s, .empty⟩⟩,
    ⟨∀ c ∈ s.toList.head?, isLetter c = true, .identifier ⟨kind, s, .badStart⟩⟩,
    ⟨∀ c ∈ s.toList.tail, isLetter c = true ∨ Text.isDigit c = true ∨ c = '_',
      .identifier ⟨kind, s, .badCharacter⟩⟩,
    ⟨s.length ≤ 48, .identifier ⟨kind, s, .tooLong⟩⟩]

variable {kind : NameKind} {s : String}

theorem firstBroken_rules_iff {e : ConfigError} : Rule.FirstBroken (rules kind s) e ↔
    ∃ fault, fault? s.toList = some fault ∧ e = .identifier ⟨kind, s, fault⟩ := by
  have hempty : s = "" ↔ s.toList = [] := String.toList_eq_nil_iff.symm
  simp only [rules, Rule.FirstBroken, ← String.length_toList, ne_eq, hempty]
  rcases s.toList with _ | ⟨first, rest⟩
  · simp [fault?]
  · have htail : (∀ c ∈ rest, isLetter c = true ∨ Text.isDigit c = true ∨ c = '_') ↔
        rest.all isTail = true := by
      simp only [List.all_eq_true, isTail_iff]
    have hlong : 48 ≤ rest.length ↔ ¬rest.length + 1 ≤ 48 := by omega
    simp only [List.head?_cons, Option.mem_some_iff, forall_eq', List.tail_cons, List.length_cons,
      htail, fault?, maxLength, hlong]
    cases isLetter first <;> cases rest.all isTail <;>
      by_cases hlength : rest.length + 1 ≤ 48 <;> simp [hlength]

theorem obeyed_parse : Rule.Obeyed ((parse kind s).mapError .identifier) (rules kind s) := by
  intro e
  rw [firstBroken_rules_iff]
  rcases hparse : parse kind s with error | name
  · obtain ⟨fault, hfault, rfl⟩ := parse_eq_error_iff.mp hparse
    simp [hfault, Except.mapError, eq_comm]
  · have hnone := fault?_eq_none_iff.mpr (parse_eq_ok_iff.mp hparse).1
    simp [hnone, Except.mapError]

theorem forall_mem_rules_iff : (∀ rule ∈ rules kind s, rule.holds) ↔ Spelled s := by
  rw [← obeyed_parse.exists_ok_iff]
  simp only [mapError_eq_ok_iff, parse_eq_ok_iff]
  constructor
  · rintro ⟨-, hspelled, -⟩
    exact hspelled
  · intro hspelled
    exact ⟨⟨fold s, wellFormed_fold (fault?_eq_none_iff.mpr hspelled)⟩, hspelled, rfl⟩

end Name

/-! ## The rules for replication -/

namespace Replication

/-- The name of a datacenter as it may be written: letters, digits, underscores, hyphens and
points. -/
def Spelled (name : String) : Prop :=
  name ≠ "" ∧
    ∀ c ∈ name.toList, Name.isLetter c = true ∨ Text.isDigit c = true ∨ c ∈ ['_', '-', '.']

/-- A setting that is possible. -/
def Valid : Replication → Prop
  | .simple factor => factor ≠ 0
  | .perDatacenter dcs => dcs.entries ≠ [] ∧ ∀ entry ∈ dcs.entries, Spelled entry.1 ∧ entry.2 ≠ 0

/-- The rules for the entry of a datacenter. -/
def entryRules (entry : String × UInt8) : List Rule :=
  [⟨Spelled entry.1, .replication (.badName entry.1)⟩,
    ⟨entry.2 ≠ 0, .replication (.zeroDatacenterFactor entry.1)⟩]

/-- The rules for a setting. The datacenters come in the order of their names. -/
def rules : Replication → List Rule
  | .simple factor => [⟨factor ≠ 0, .replication .zeroFactor⟩]
  | .perDatacenter dcs =>
    ⟨dcs.entries ≠ [], .replication .noDatacenter⟩ :: dcs.entries.flatMap entryRules

theorem isName_iff {name : String} : isName name = true ↔ Spelled name := by
  have hchar : ∀ c, isNameChar c = true ↔
      Name.isLetter c = true ∨ Text.isDigit c = true ∨ c ∈ ['_', '-', '.'] := by
    intro c
    simp [isNameChar, Name.isLetter, or_assoc]
  simp [isName, Spelled, List.all_eq_true, hchar]

theorem firstBroken_entryRules_iff {entry : String × UInt8} {e : ConfigError} :
    Rule.FirstBroken (entryRules entry) e ↔
      ∃ fault, entryFault? entry = some fault ∧ e = .replication fault := by
  simp only [entryRules, Rule.FirstBroken, entryFault?, ← isName_iff]
  cases isName entry.1 <;> by_cases hfactor : entry.2 = 0 <;> simp [hfactor]

theorem entryFault?_eq_none_iff {entry : String × UInt8} :
    entryFault? entry = none ↔ ∀ rule ∈ entryRules entry, rule.holds := by
  simp only [entryFault?, entryRules, List.forall_mem_cons, ← isName_iff]
  cases isName entry.1 <;> by_cases hfactor : entry.2 = 0 <;> simp [hfactor]

/-- The entries are gone through up to the first one with a fault. -/
theorem firstBroken_flatMap_iff {entries : List (String × UInt8)} {e : ConfigError} :
    Rule.FirstBroken (entries.flatMap entryRules) e ↔
      ∃ fault, entries.findSome? entryFault? = some fault ∧ e = .replication fault := by
  induction entries with
  | nil => simp [Rule.FirstBroken]
  | cons entry entries ih =>
    rw [List.flatMap_cons, Rule.firstBroken_append, ih, firstBroken_entryRules_iff,
      ← entryFault?_eq_none_iff, List.findSome?_cons]
    rcases entryFault? entry with _ | fault
    · simp
    · simp

theorem firstBroken_rules_iff {setting : Replication} {e : ConfigError} :
    Rule.FirstBroken setting.rules e ↔
      ∃ fault, setting.fault? = some fault ∧ e = .replication fault := by
  cases setting with
  | simple factor =>
    by_cases hfactor : factor = 0 <;> simp [rules, fault?, Rule.FirstBroken, hfactor]
  | perDatacenter dcs =>
    simp only [rules, fault?, Rule.FirstBroken, firstBroken_flatMap_iff]
    by_cases hentries : dcs.entries = [] <;> simp [hentries]

theorem forall_mem_rules_iff {setting : Replication} :
    (∀ rule ∈ setting.rules, rule.holds) ↔ setting.Valid := by
  cases setting with
  | simple factor => simp [rules, Valid]
  | perDatacenter dcs =>
    simp only [rules, Valid, entryRules, List.forall_mem_cons, List.forall_mem_flatMap]
    simp

theorem obeyed_checkReplication (setting : Replication) :
    Rule.Obeyed (Config.checkReplication setting) setting.rules := by
  intro e
  rw [firstBroken_rules_iff]
  unfold Config.checkReplication
  rcases setting.fault? with _ | fault
  · simp
  · simp [eq_comm]

end Replication

/-! ## The rules for a layer -/

namespace Backend

/-- The words for a backend, in letters of either case. -/
def Named : Backend → String → Prop
  | .duckdb, name => Name.fold name = "duckdb"
  | .cassandra, name => Name.fold name = "cassandra" ∨ Name.fold name = "scylla"

variable {name : String} {backend : Backend}

theorem parse_eq_ok_iff : parse name = .ok backend ↔ backend.Named name := by
  simp only [parse]
  split
  · next h => cases backend <;> simp [Named, h]
  · next h => split <;> cases backend <;> simp_all [Named]

theorem parse_eq_error_iff {e : ConfigError} : parse name = .error e ↔
    (¬∃ backend : Backend, backend.Named name) ∧ e = .unknownBackend (Name.fold name) := by
  simp only [← parse_eq_ok_iff, parse]
  split
  · simp
  · split <;> simp [eq_comm]

theorem Named.unique {other : Backend} (h : backend.Named name) (hother : other.Named name) :
    backend = other :=
  Except.ok.inj ((parse_eq_ok_iff.mpr h).symm.trans (parse_eq_ok_iff.mpr hother))

end Backend

namespace Layer

/-- The rules for what a layer says about the database. -/
def databaseRules (layer : Layer) : List Rule := List.flatten [
  Rule.forValue (layer.get .backend) (fun name => ∃ backend : Backend, backend.Named name)
    fun name => .unknownBackend (Name.fold name),
  Rule.forValue (layer.get .port) (· ≠ 0) fun _ => .zeroPort,
  Rule.forValue (layer.get .databasePath) (· ≠ "") fun _ => .emptyPath,
  Rule.forValue (layer.get .host) (· ≠ "") fun _ => .emptyHost]

/-- The rules for a layer in their order. -/
def rules (layer : Layer) : List Rule := List.flatten [
  layer.databaseRules,
  [⟨layer.get .scriptDirectory ≠ none, .missing .scriptDirectory⟩],
  [⟨layer.get .keyspace ≠ none, .missing .keyspace⟩],
  (layer.get .keyspace).elim [] (Name.rules .keyspace),
  (layer.get .table).elim [] (Name.rules .table),
  Rule.forValue (layer.get .statementTimeout) (· ≠ 0) fun _ => .zeroTimeout,
  (layer.get .replication).elim [] Replication.rules]

/-- A layer that describes a configuration. -/
structure Valid (layer : Layer) : Prop where
  backend : ∀ name ∈ layer.get .backend, ∃ backend : Backend, backend.Named name
  port : ∀ port ∈ layer.get .port, port ≠ 0
  path : ∀ path ∈ layer.get .databasePath, path ≠ ""
  host : ∀ host ∈ layer.get .host, host ≠ ""
  scriptDirectory : layer.get .scriptDirectory ≠ none
  keyspace : ∃ name ∈ layer.get .keyspace, Name.Spelled name
  table : ∀ name ∈ layer.get .table, Name.Spelled name
  timeout : ∀ seconds ∈ layer.get .statementTimeout, seconds ≠ 0
  replication : ∀ setting ∈ layer.get .replication, setting.Valid

theorem forall_mem_rules_iff {layer : Layer} :
    (∀ rule ∈ layer.rules, rule.holds) ↔ layer.Valid := by
  have hkeyspace : (layer.get .keyspace ≠ none ∧
      ∀ rule ∈ (layer.get .keyspace).elim [] (Name.rules .keyspace), rule.holds) ↔
        ∃ name ∈ layer.get .keyspace, Name.Spelled name := by
    rcases layer.get .keyspace with _ | name
    · simp
    · simp [Name.forall_mem_rules_iff]
  have htable : (∀ rule ∈ (layer.get .table).elim [] (Name.rules .table), rule.holds) ↔
      ∀ name ∈ layer.get .table, Name.Spelled name := by
    rcases layer.get .table with _ | name
    · simp
    · simp [Name.forall_mem_rules_iff]
  have hreplication : (∀ rule ∈ (layer.get .replication).elim [] Replication.rules, rule.holds) ↔
      ∀ setting ∈ layer.get .replication, setting.Valid := by
    rcases layer.get .replication with _ | setting
    · simp
    · simp [Replication.forall_mem_rules_iff]
  simp only [rules, databaseRules, List.flatten_cons, List.flatten_nil, List.append_nil,
    List.forall_mem_append, List.forall_mem_singleton, Rule.forall_mem_forValue, htable,
    hreplication]
  constructor
  · rintro ⟨⟨hbackend, hport, hpath, hhost⟩, hscripts, hset, hname, htable, htimeout, hreplication⟩
    exact ⟨hbackend, hport, hpath, hhost, hscripts, hkeyspace.mp ⟨hset, hname⟩, htable, htimeout,
      hreplication⟩
  · intro h
    obtain ⟨hset, hname⟩ := hkeyspace.mpr h.keyspace
    exact ⟨⟨h.backend, h.port, h.path, h.host⟩, h.scriptDirectory, hset, hname, h.table, h.timeout,
      h.replication⟩

end Layer

namespace Config

/-! ## Checking a layer -/

/-- A condition on a value with a default is one on the value, for a default that meets it. -/
theorem obeyed_check {α : Type} [DecidableEq α] (value? : Option α) {default bad : α}
    (hdefault : default ≠ bad) (error : ConfigError) :
    Rule.Obeyed (check (value?.getD default ≠ bad) error)
      (Rule.forValue value? (· ≠ bad) fun _ => error) := by
  intro e
  unfold check
  rcases value? with _ | value
  · simp [hdefault, Rule.forValue, Rule.FirstBroken]
  · by_cases hbad : value = bad
    · simp [hbad, Rule.forValue, Rule.FirstBroken, eq_comm]
    · simp [hbad, Rule.forValue, Rule.FirstBroken]

theorem obeyed_required {α : Type} (key : ConfigKey) (value? : Option α) :
    Rule.Obeyed (required key value?) [⟨value? ≠ none, .missing key⟩] := by
  intro e
  rcases value? with _ | value <;> simp [required, Rule.FirstBroken, eq_comm]

theorem obeyed_resolveBackend (name? : Option String) :
    Rule.Obeyed (resolveBackend name?)
      (Rule.forValue name? (fun name => ∃ backend : Backend, backend.Named name)
        fun name => .unknownBackend (Name.fold name)) := by
  intro e
  rcases name? with _ | name
  · simp [resolveBackend, Rule.forValue, Rule.FirstBroken]
  · simp [resolveBackend, Rule.forValue, Rule.FirstBroken, Backend.parse_eq_error_iff]

/-- The name of the table has a valid default. -/
theorem obeyed_parseTable (name? : Option String) :
    Rule.Obeyed ((Name.parse .table (name?.getD defaultTable)).mapError .identifier)
      (name?.elim [] (Name.rules .table)) := by
  rcases name? with _ | name
  · exact Rule.Obeyed.ok _
  · exact Name.obeyed_parse

/-- So has the replication. -/
theorem obeyed_checkDefault (setting? : Option Replication) :
    Rule.Obeyed (checkReplication (setting?.getD .standard))
      (setting?.elim [] Replication.rules) := by
  rcases setting? with _ | setting
  · exact Rule.Obeyed.ok _
  · exact Replication.obeyed_checkReplication setting

theorem obeyed_resolveDatabase (layer : Layer) :
    Rule.Obeyed (resolveDatabase (layer.database.getD {})) layer.databaseRules := by
  rw [layer.database_getD]
  unfold resolveDatabase
  refine (obeyed_resolveBackend _).bind fun backend _ => ?_
  refine (obeyed_check (layer.get .port) (by decide) .zeroPort).bind fun _ _ => ?_
  refine (obeyed_check (layer.get .databasePath) (by decide) .emptyPath).bind fun _ _ => ?_
  refine (obeyed_check (layer.get .host) (by decide) .emptyHost).bind fun _ _ => ?_
  exact Rule.Obeyed.ok _

/-- A layer is refused with the error of the first rule that it breaks. -/
theorem obeyed_resolve (layer : Layer) : Rule.Obeyed (resolve layer) layer.rules := by
  unfold resolve
  refine (obeyed_resolveDatabase layer).bind fun database _ => ?_
  refine (obeyed_required _ layer.scriptDirectory).bind fun scriptDirectory _ => ?_
  refine (obeyed_required _ layer.keyspace).bind fun keyspace hkeyspace => ?_
  have hset : layer.get .keyspace = some keyspace := of_required hkeyspace
  rw [hset]
  refine Name.obeyed_parse.bind fun name _ => ?_
  refine (obeyed_parseTable layer.table).bind fun table _ => ?_
  refine (obeyed_check layer.timeoutSeconds (by decide) .zeroTimeout).bind fun _ _ => ?_
  refine (obeyed_checkDefault layer.replication).bind fun _ _ => ?_
  exact Rule.Obeyed.ok _

theorem exists_resolve_iff {layer : Layer} :
    (∃ config, resolve layer = .ok config) ↔ layer.Valid := by
  rw [(obeyed_resolve layer).exists_ok_iff, Layer.forall_mem_rules_iff]

/-! ## What a configuration is made of -/

/-- A configuration with what a layer sets, and with the defaults for what it does not set. -/
structure CarriesOver (config : Config) (layer : Layer) : Prop where
  backend : ∀ name ∈ layer.get .backend, config.database.backend.Named name
  defaultBackend : layer.get .backend = none → config.database.backend = .duckdb
  path : config.database.path = (layer.get .databasePath).getD "cqlmigrate.duckdb"
  host : config.database.host = (layer.get .host).getD "localhost"
  port : config.database.port = (layer.get .port).getD 9042
  scriptDirectory : layer.get .scriptDirectory = some config.scriptDirectory
  keyspace : (layer.get .keyspace).map Name.fold = some config.keyspace.text
  table : config.table.text = ((layer.get .table).map Name.fold).getD "migrated_cql"
  refresh : config.refresh = (layer.get .refresh).getD false
  verifyChecksums : config.verifyChecksums = (layer.get .verifyChecksums).getD false
  timeoutSeconds : config.timeoutSeconds = (layer.get .statementTimeout).getD 10
  replication : config.replication = (layer.get .replication).getD (.simple 1)

theorem carriesOver_of_resolve {layer : Layer} {config : Config} (h : resolve layer = .ok config) :
    config.CarriesOver layer := by
  have hfrom := resolvedFrom_of_resolve h
  obtain ⟨keyspace, hkeyspace, hfolded⟩ := hfrom.keyspace
  have htable := (Name.parse_eq_ok_iff.mp hfrom.table).2
  exact {
    backend := fun name hname => by
      have hbackend := hfrom.backend
      rw [Option.mem_def.mp hname] at hbackend
      exact Backend.parse_eq_ok_iff.mp hbackend
    defaultBackend := fun hnone => by
      have hbackend := hfrom.backend
      rw [hnone] at hbackend
      exact (Except.ok.inj hbackend).symm
    path := hfrom.path
    host := hfrom.host
    port := hfrom.port
    scriptDirectory := hfrom.scriptDirectory
    keyspace := by
      have hset : layer.get .keyspace = some keyspace := hkeyspace
      rw [hset, (Name.parse_eq_ok_iff.mp hfolded).2, Option.map_some]
    table := by
      rw [htable]
      change Name.fold (layer.table.getD defaultTable) = (layer.table.map Name.fold).getD _
      rcases layer.table with _ | name
      · decide +kernel
      · rfl
    refresh := hfrom.refresh
    verifyChecksums := hfrom.verifyChecksums
    timeoutSeconds := hfrom.timeoutSeconds
    replication := hfrom.replication }

/-- The replication of a configuration is possible, set or not. -/
theorem valid_replication_of_resolve {layer : Layer} {config : Config}
    (h : resolve layer = .ok config) : config.replication.Valid := by
  have hvalid := (exists_resolve_iff.mp ⟨config, h⟩).replication
  rw [(carriesOver_of_resolve h).replication]
  rcases hset : layer.get .replication with _ | setting
  · change (1 : UInt8) ≠ 0
    decide
  · exact hvalid setting hset

/-- There is only one such configuration. -/
theorem CarriesOver.unique {layer : Layer} {config other : Config} (h : config.CarriesOver layer)
    (hother : other.CarriesOver layer) : config = other := by
  have hbackend : config.database.backend = other.database.backend := by
    rcases hset : layer.get .backend with _ | name
    · rw [h.defaultBackend hset, hother.defaultBackend hset]
    · exact (h.backend name hset).unique (hother.backend name hset)
  have hdatabase : config.database = other.database := by
    rw [DatabaseConfig.mk.injEq]
    exact ⟨hbackend, h.path.trans hother.path.symm, h.host.trans hother.host.symm,
      h.port.trans hother.port.symm⟩
  have hkeyspace : config.keyspace = other.keyspace :=
    Name.ext (Option.some.inj (h.keyspace.symm.trans hother.keyspace))
  have htable : config.table = other.table := Name.ext (h.table.trans hother.table.symm)
  rw [Config.mk.injEq]
  exact ⟨hdatabase, Option.some.inj (h.scriptDirectory.symm.trans hother.scriptDirectory),
    hkeyspace, htable, h.refresh.trans hother.refresh.symm,
    h.verifyChecksums.trans hother.verifyChecksums.symm,
    h.timeoutSeconds.trans hother.timeoutSeconds.symm, h.replication.trans hother.replication.symm⟩

/-- **Which layers are accepted.** A layer describes a configuration exactly if it is valid, namely
the one that carries over what the layer sets, with names folded, and has the defaults elsewhere. A
layer that is refused is refused with the error of the first rule that it breaks. -/
theorem resolve_exact (layer : Layer) :
    ((∃ config, resolve layer = .ok config) ↔ layer.Valid) ∧
      (∀ config, resolve layer = .ok config ↔ layer.Valid ∧ config.CarriesOver layer) ∧
      ∀ error, resolve layer = .error error ↔ Rule.FirstBroken layer.rules error := by
  refine ⟨exists_resolve_iff, fun config => ⟨fun h => ?_, ?_⟩, obeyed_resolve layer⟩
  · exact ⟨exists_resolve_iff.mp ⟨config, h⟩, carriesOver_of_resolve h⟩
  · rintro ⟨hvalid, hcarries⟩
    obtain ⟨other, hother⟩ := exists_resolve_iff.mpr hvalid
    rw [hcarries.unique (carriesOver_of_resolve hother)]
    exact hother

end Config

end SchemaMigration
