import SchemaMigration.Proofs.Config.Layering

/-!
# What a configuration says

A configuration has at each key the value that its layer sets there, or the default. Some values are
read on the way: names are folded, and a word stands for a backend.

* `Layer.defaults`, `Config.resolve_defaults_overlay`: the built-in values are one more layer, the
  lowest.
* `Config.Carries`: a configuration has a value at a key.
* `Config.carries_of_resolve`: what it has is what the stack over the defaults sets.
* `Config.resolve_timeout`: a configured statement may take a second at least.
-/

namespace SchemaMigration

theorem exists_of_bind_eq_ok {ε α β : Type} {x : Except ε α} {f : α → Except ε β} {b : β}
    (h : x >>= f = .ok b) : ∃ a, x = .ok a ∧ f a = .ok b := by
  rcases x with e | a
  · cases h
  · exact ⟨a, rfl, h⟩

theorem mapError_eq_ok_iff {ε ε' α : Type} {x : Except ε α} {f : ε → ε'} {a : α} :
    x.mapError f = .ok a ↔ x = .ok a := by
  constructor <;> intro h <;> rcases x with e | b <;> cases h <;> rfl

/-! ## The defaults as a layer -/

/-- The built-in values. The directory of the scripts and the keyspace have none. -/
def Layer.defaults : Layer :=
  let database : DatabaseConfig := {}
  { database := some {
      backend := some database.backend.label
      path := some database.path
      host := some database.host
      port := some database.port }
    table := some Config.defaultTable
    refresh := some false
    verifyChecksums := some false
    timeoutSeconds := some Config.defaultTimeout
    replication := some .standard }

namespace Config

theorem resolveDatabase_or_defaults (layer : DatabaseLayer) :
    let defaults : DatabaseConfig := {}
    resolveDatabase {
        backend := layer.backend.or (some defaults.backend.label)
        path := layer.path.or (some defaults.path)
        host := layer.host.or (some defaults.host)
        port := layer.port.or (some defaults.port) } = resolveDatabase layer := by
  rcases layer with ⟨_ | backend, _ | path, _ | host, _ | port⟩ <;> rfl

/-- A layer over the defaults describes what it describes alone. -/
theorem resolve_defaults_overlay (layer : Layer) :
    resolve (Layer.defaults.overlay layer) = resolve layer := by
  have hdatabase : resolveDatabase ((Layer.defaults.overlay layer).database.getD {}) =
      resolveDatabase (layer.database.getD {}) := by
    rw [Layer.database_getD, Layer.database_getD]
    simp only [Layer.get_overlay]
    exact resolveDatabase_or_defaults ⟨layer.get .backend, layer.get .databasePath,
      layer.get .host, layer.get .port⟩
  have hscripts : (Layer.defaults.overlay layer).scriptDirectory = layer.scriptDirectory :=
    Option.or_none
  have hkeyspace : (Layer.defaults.overlay layer).keyspace = layer.keyspace := Option.or_none
  simp only [resolve, hdatabase, hscripts, hkeyspace]
  simp only [Layer.overlay, Layer.defaults, Option.or_some, Option.getD_some]

/-! ## The values of a configuration -/

/-- Whether a configuration has a value at a key. -/
def Carries (config : Config) : (key : ConfigKey) → key.Value → Prop
  | .backend, name => Backend.parse name = .ok config.database.backend
  | .databasePath, path => config.database.path = path
  | .host, host => config.database.host = host
  | .port, port => config.database.port = port
  | .scriptDirectory, path => config.scriptDirectory = path
  | .keyspace, name => Name.parse .keyspace name = .ok config.keyspace
  | .table, name => Name.parse .table name = .ok config.table
  | .refresh, value => config.refresh = value
  | .verifyChecksums, value => config.verifyChecksums = value
  | .statementTimeout, seconds => config.timeoutSeconds = seconds
  | .replication, setting => config.replication = setting

theorem of_check {condition : Bool} {error : ConfigError} {u : Unit}
    (h : check condition error = .ok u) : condition = true := by
  rcases condition with _ | _
  · cases h
  · rfl

theorem of_required {α : Type} {key : ConfigKey} {value? : Option α} {value : α}
    (h : required key value? = .ok value) : value? = some value := by
  rcases value? with _ | found
  · cases h
  · cases h
    rfl

/-- A configuration with the values that a layer sets, read where they are names, and the defaults
for what it does not set. -/
structure ResolvedFrom (config : Config) (layer : Layer) : Prop where
  backend : resolveBackend (layer.get .backend) = .ok config.database.backend
  path : config.database.path = (layer.get .databasePath).getD ({} : DatabaseConfig).path
  host : config.database.host = (layer.get .host).getD ({} : DatabaseConfig).host
  port : config.database.port = (layer.get .port).getD ({} : DatabaseConfig).port
  scriptDirectory : layer.scriptDirectory = some config.scriptDirectory
  keyspace : ∃ name, layer.keyspace = some name ∧ Name.parse .keyspace name = .ok config.keyspace
  table : Name.parse .table (layer.table.getD defaultTable) = .ok config.table
  refresh : config.refresh = layer.refresh.getD false
  verifyChecksums : config.verifyChecksums = layer.verifyChecksums.getD false
  timeoutSeconds : config.timeoutSeconds = layer.timeoutSeconds.getD defaultTimeout
  timeout_ne_zero : config.timeoutSeconds ≠ 0
  replication : config.replication = layer.replication.getD .standard

theorem of_resolveDatabase {layer : DatabaseLayer} {database : DatabaseConfig}
    (h : resolveDatabase layer = .ok database) :
    let defaults : DatabaseConfig := {}
    resolveBackend layer.backend = .ok database.backend ∧
      database.path = layer.path.getD defaults.path ∧
      database.host = layer.host.getD defaults.host ∧
      database.port = layer.port.getD defaults.port := by
  unfold resolveDatabase at h
  obtain ⟨backend, hbackend, h⟩ := exists_of_bind_eq_ok h
  obtain ⟨port, -, h⟩ := exists_of_bind_eq_ok h
  obtain ⟨path, -, h⟩ := exists_of_bind_eq_ok h
  obtain ⟨host, -, h⟩ := exists_of_bind_eq_ok h
  cases h
  exact ⟨hbackend, rfl, rfl, rfl⟩

theorem resolvedFrom_of_resolve {layer : Layer} {config : Config}
    (h : resolve layer = .ok config) : config.ResolvedFrom layer := by
  unfold resolve at h
  obtain ⟨database, hdatabase, h⟩ := exists_of_bind_eq_ok h
  obtain ⟨scriptDirectory, hscripts, h⟩ := exists_of_bind_eq_ok h
  obtain ⟨name, hname, h⟩ := exists_of_bind_eq_ok h
  obtain ⟨keyspace, hkeyspace, h⟩ := exists_of_bind_eq_ok h
  obtain ⟨table, htable, h⟩ := exists_of_bind_eq_ok h
  obtain ⟨checked, hseconds, h⟩ := exists_of_bind_eq_ok h
  obtain ⟨valid, -, h⟩ := exists_of_bind_eq_ok h
  cases h
  rw [Layer.database_getD] at hdatabase
  obtain ⟨hbackend, hpath, hhost, hport⟩ := of_resolveDatabase hdatabase
  exact {
    backend := hbackend
    path := hpath
    host := hhost
    port := hport
    scriptDirectory := of_required hscripts
    keyspace := ⟨name, of_required hname, mapError_eq_ok_iff.mp hkeyspace⟩
    table := mapError_eq_ok_iff.mp htable
    refresh := rfl
    verifyChecksums := rfl
    timeoutSeconds := rfl
    timeout_ne_zero := by simpa using of_check hseconds
    replication := rfl }

/-- Each value of a configuration is what the layer under it sets, or else the default. -/
theorem carries_of_resolve {layer : Layer} {config : Config} (h : resolve layer = .ok config)
    (key : ConfigKey) :
    ∃ value, (layer.get key).or (Layer.defaults.get key) = some value ∧
      config.Carries key value := by
  have hfrom := resolvedFrom_of_resolve h
  cases key with
  | backend =>
    refine ⟨_, Option.or_some, ?_⟩
    have hbackend := hfrom.backend
    rcases hname : layer.get .backend with _ | name <;> rw [hname] at hbackend
    · exact hbackend
    · exact hbackend
  | databasePath => exact ⟨_, Option.or_some, hfrom.path⟩
  | host => exact ⟨_, Option.or_some, hfrom.host⟩
  | port => exact ⟨_, Option.or_some, hfrom.port⟩
  | scriptDirectory =>
    exact ⟨_, congrArg (Option.or · none) hfrom.scriptDirectory, rfl⟩
  | keyspace =>
    obtain ⟨name, hname, hparse⟩ := hfrom.keyspace
    exact ⟨name, congrArg (Option.or · none) hname, hparse⟩
  | table => exact ⟨_, Option.or_some, hfrom.table⟩
  | refresh => exact ⟨_, Option.or_some, hfrom.refresh⟩
  | verifyChecksums => exact ⟨_, Option.or_some, hfrom.verifyChecksums⟩
  | statementTimeout => exact ⟨_, Option.or_some, hfrom.timeoutSeconds⟩
  | replication => exact ⟨_, Option.or_some, hfrom.replication⟩

/-- A configured statement may take a second at least. -/
theorem resolve_timeout {layer : Layer} {config : Config} (h : resolve layer = .ok config) :
    1 ≤ config.timeout := by
  have hne : config.timeoutSeconds.toNat ≠ 0 := fun hzero =>
    (resolvedFrom_of_resolve h).timeout_ne_zero (UInt64.toNat_inj.mp hzero)
  simp only [timeout]
  omega

end Config

end SchemaMigration
