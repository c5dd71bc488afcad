import SchemaMigration.CommandLine.Running
import SchemaMigration.Proofs.Config.Resolution

/-!
# The configuration of a command

A command's configuration has three layers: the defaults, the file that the options name, and the
options themselves, which the environment has filled up. A value comes from the highest of them that
sets its key.

* `GlobalOptions.get_toLayer`: the layer that the options make sets what the options give.
* `GlobalOptions.given_fill`: the environment stands in for options that are not given, and for no
  others.
* `loadConfig_eq`: the configuration is that of the three layers in a stack.
* `carries_of_loadConfig`: from where each of its values comes.
* `configuration_layers`: stacks of layers, and the configuration that options and environment make.
-/

namespace SchemaMigration.CommandLine

namespace GlobalOptions

/-! ## The layer of the options -/

/-- The value that the options give a key, if they give one. Nothing on the command line sets the
replication. -/
def given (options : GlobalOptions) : (key : ConfigKey) → Option key.Value
  | .backend => options.backend
  | .databasePath => options.databasePath
  | .host => options.host
  | .port => options.port
  | .scriptDirectory => options.scriptDirectory
  | .keyspace => options.keyspace
  | .table => options.table
  | .refresh => if options.noRefresh then some false else options.refresh
  | .verifyChecksums => options.verifyChecksums
  | .statementTimeout => options.timeoutSeconds
  | .replication => none

/-- The database's section is left out if it would be blank, which no key can tell. -/
theorem bind_databaseLayer {α : Type} (options : GlobalOptions)
    (field : DatabaseLayer → Option α) (hblank : field {} = none) :
    options.databaseLayer.bind field =
      field ⟨options.backend, options.databasePath, options.host, options.port⟩ := by
  simp only [databaseLayer]
  split
  · next h => rw [h, hblank, Option.bind_none]
  · rfl

theorem get_toLayer (options : GlobalOptions) (key : ConfigKey) :
    options.toLayer.get key = options.given key := by
  cases key with
  | backend => exact options.bind_databaseLayer DatabaseLayer.backend rfl
  | databasePath => exact options.bind_databaseLayer DatabaseLayer.path rfl
  | host => exact options.bind_databaseLayer DatabaseLayer.host rfl
  | port => exact options.bind_databaseLayer DatabaseLayer.port rfl
  | _ => rfl

/-! ## The environment -/

/-- The value of a key that a word reads as. -/
def readValue : (key : ConfigKey) → String → Option key.Value
  | .backend, word | .databasePath, word | .host, word => some word
  | .port, word => portValue? word
  | .scriptDirectory, word | .keyspace, word | .table, word => some word
  | .refresh, word | .verifyChecksums, word => switchValue? word
  | .statementTimeout, word => secondsValue? word
  | .replication, _ => none

theorem of_reading {α : Type} {option : Opt} {word : String} {value? : Option α} {value : α}
    (h : reading option word value? = .ok value) : value? = some value := by
  rcases value? with _ | found
  · cases h
  · cases h
    rfl

theorem of_pathValue {option : Opt} {word path : String}
    (h : pathValue option word = .ok path) : path = word := by
  unfold pathValue at h
  split at h
  · cases h
  · cases h
    rfl

/-- An option that is not given is set to what the word reads as, and no other is changed. -/
theorem given_set {options next : GlobalOptions} {option : Opt} {key : ConfigKey} {word : String}
    (hkey : option.key? = some key) (hhas : options.has option = false)
    (h : options.set option word = .ok next) (other : ConfigKey) :
    next.given other =
      (options.given other).or (if key = other then readValue other word else none) := by
  cases option with
  | backend | databasePath | host | keyspace | table =>
    cases hkey
    cases h
    cases other <;> simp_all [given, has, readValue]
  | scriptDirectory =>
    obtain ⟨path, hpath, h⟩ := exists_of_bind_eq_ok h
    have hword := of_pathValue hpath
    cases hkey
    cases h
    cases other <;> simp_all [given, has, readValue]
  | port | verifyChecksums | timeout =>
    obtain ⟨value, hvalue, h⟩ := exists_of_bind_eq_ok h
    have hread := of_reading hvalue
    cases hkey
    cases h
    cases other <;> simp_all [given, has, readValue]
  | refresh =>
    obtain ⟨value, hvalue, h⟩ := exists_of_bind_eq_ok h
    have hread := of_reading hvalue
    cases hkey
    cases h
    -- a refresh that is forbidden stays so, whatever the word says
    cases other with
    | refresh => rcases hforbidden : options.noRefresh <;> simp_all [given, has, readValue]
    | _ => simp [given]
  | _ => cases hkey

theorem frame_set {options next : GlobalOptions} {option : Opt} {key : ConfigKey} {word : String}
    (hkey : option.key? = some key) (h : options.set option word = .ok next) :
    next.configFile = options.configFile ∧ next.noRefresh = options.noRefresh := by
  cases option with
  | backend | databasePath | host | keyspace | table =>
    cases h
    exact ⟨rfl, rfl⟩
  | scriptDirectory | port | refresh | verifyChecksums | timeout =>
    obtain ⟨value, -, h⟩ := exists_of_bind_eq_ok h
    cases h
    exact ⟨rfl, rfl⟩
  | _ => cases hkey

theorem isSome_given_of_has {options : GlobalOptions} {option : Opt} {key : ConfigKey}
    (hkey : option.key? = some key) (hhas : options.has option = true) :
    (options.given key).isSome = true := by
  cases option with
  | backend | databasePath | host | port | scriptDirectory | keyspace | table | verifyChecksums
  | timeout =>
    cases hkey
    exact hhas
  | refresh =>
    cases hkey
    simp only [given]
    split
    · rfl
    · exact hhas
  | verbose | configFile | noRefresh | output | help | version => cases hkey

/-- What the environment says about a key. -/
def ofEnvironment (environment : String → Option String) (key : ConfigKey) : Option key.Value :=
  (environment key.environmentName).bind (readValue key)

variable {environment : String → Option String} {options next filled : GlobalOptions}

/-- Options that the environment has filled up, as far as some of them are concerned. -/
structure FillsUp (environment : String → Option String) (list : List Opt)
    (options filled : GlobalOptions) : Prop where
  configFile : filled.configFile = options.configFile
  noRefresh : filled.noRefresh = options.noRefresh
  given : ∀ key, filled.given key = (options.given key).or
    (if list.any fun option => option.key? == some key then ofEnvironment environment key else none)

theorem FillsUp.cons {option : Opt} {list : List Opt}
    (hnext : FillsUp environment [option] options next)
    (hfilled : FillsUp environment list next filled) :
    FillsUp environment (option :: list) options filled where
  configFile := hfilled.configFile.trans hnext.configFile
  noRefresh := hfilled.noRefresh.trans hnext.noRefresh
  given key := by
    rw [hfilled.given key, hnext.given key, Option.or_assoc]
    -- an option that comes again finds what it has been set to
    by_cases hown : option.key? = some key <;>
      cases hlater : list.any fun option => option.key? == some key <;>
      simp [hown, hlater]

/-- There is nothing to fill up if the environment would not change the option's key. -/
theorem FillsUp.of_idle {option : Opt}
    (h : ∀ key, option.key? = some key →
      (options.given key).or (ofEnvironment environment key) = options.given key) :
    FillsUp environment [option] options options where
  configFile := rfl
  noRefresh := rfl
  given key := by
    by_cases hown : option.key? = some key
    · simp [hown, h key hown]
    · simp [hown]

theorem fillsUp_fillOne {option : Opt} (h : fillOne environment options option = .ok next) :
    FillsUp environment [option] options next := by
  unfold fillOne at h
  split at h
  · next hkey =>
    cases h
    exact .of_idle fun key hown => absurd (hkey.symm.trans hown) nofun
  · next own hkey =>
    split at h
    · next hhas =>
      cases h
      exact .of_idle fun key hown => Option.or_of_isSome (isSome_given_of_has hown hhas)
    · next hhas =>
      split at h
      · next word hword =>
        obtain ⟨hfile, hforbidden⟩ := frame_set hkey h
        refine ⟨hfile, hforbidden, fun key => ?_⟩
        rw [given_set hkey (by simpa using hhas) h key]
        by_cases hown : own = key
        · subst hown
          simp [hkey, ofEnvironment, hword]
        · simp [hkey, hown]
      · next hword =>
        cases h
        refine .of_idle fun key hown => ?_
        obtain rfl : own = key := Option.some.inj (hkey.symm.trans hown)
        simp [ofEnvironment, hword]

theorem fillsUp_foldlM {list : List Opt}
    (h : list.foldlM (fillOne environment) options = .ok filled) :
    FillsUp environment list options filled := by
  induction list generalizing options with
  | nil =>
    cases h
    exact ⟨rfl, rfl, fun key => by simp⟩
  | cons option rest ih =>
    rw [List.foldlM_cons] at h
    obtain ⟨next, hnext, hrest⟩ := exists_of_bind_eq_ok h
    exact (fillsUp_fillOne hnext).cons (ih hrest)

/-- A value comes from its option if that is given, and else from the environment. -/
theorem given_fill (h : options.fill environment = .ok filled) (key : ConfigKey) :
    filled.given key = (options.given key).or (ofEnvironment environment key) := by
  rw [(fillsUp_foldlM h).given key]
  cases key with
  | replication =>
    have hnone : ofEnvironment environment .replication = none := Option.bind_fun_none _
    simp [hnone]
  | _ => rfl

end GlobalOptions

/-! ## Loading -/

/-- The layer in the file that the options name; none is named by default. -/
def fileLayer (files : Files) (options : GlobalOptions) : Except ConfigFileError Layer :=
  match options.configFile with
  | some path => Layer.load files path
  | none => .ok .empty

/-- The layers of a command's configuration in a stack. -/
def layered (low : Layer) (options : GlobalOptions) : Layer :=
  Layer.stack [.defaults, low, options.toLayer]

theorem get_layered (low : Layer) (options : GlobalOptions) (key : ConfigKey) :
    (layered low options).get key =
      ((options.given key).or (low.get key)).or (Layer.defaults.get key) := by
  simp only [layered, Layer.stack_cons, Layer.stack_nil, Layer.get_overlay, Layer.get_empty,
    options.get_toLayer, Option.none_or]

/-- A configuration is loaded with the layer in the file, if there is no error in that. -/
theorem loadConfig_eq_bind (files : Files) (options : GlobalOptions) :
    loadConfig files options =
      ((fileLayer files options).mapError CommandError.configFile).bind fun low =>
        (Config.resolve (low.overlay options.toLayer)).mapError .config := by
  unfold loadConfig fileLayer
  cases options.configFile <;> rfl

theorem loadConfig_eq {files : Files} {options : GlobalOptions} {low : Layer}
    (h : fileLayer files options = .ok low) :
    loadConfig files options = (Config.resolve (layered low options)).mapError .config := by
  have hlayered : layered low options = Layer.defaults.overlay (low.overlay options.toLayer) := by
    simp only [layered, Layer.stack_cons, Layer.stack_nil, Layer.overlay_empty]
  rw [hlayered, Config.resolve_defaults_overlay, loadConfig_eq_bind, h]
  rfl

/-- Nothing is resolved if the file cannot be loaded. -/
theorem loadConfig_of_error {files : Files} {options : GlobalOptions} {error : ConfigFileError}
    (h : fileLayer files options = .error error) :
    loadConfig files options = .error (.configFile error) := by
  rw [loadConfig_eq_bind, h]
  rfl

theorem exists_fileLayer {files : Files} {options : GlobalOptions} {config : Config}
    (h : loadConfig files options = .ok config) :
    ∃ low, fileLayer files options = .ok low ∧
      Config.resolve (layered low options) = .ok config := by
  rcases hfile : fileLayer files options with error | low
  · rw [loadConfig_of_error hfile] at h
    cases h
  · rw [loadConfig_eq hfile] at h
    exact ⟨low, rfl, mapError_eq_ok_iff.mp h⟩

/-- A value is that of the options, or else of the file, or else the default. -/
theorem carries_of_loadConfig {files : Files} {options : GlobalOptions} {low : Layer}
    {config : Config} (hfile : fileLayer files options = .ok low)
    (h : loadConfig files options = .ok config) (key : ConfigKey) :
    ∃ value, ((options.given key).or (low.get key)).or (Layer.defaults.get key) = some value ∧
      config.Carries key value := by
  rw [loadConfig_eq hfile, mapError_eq_ok_iff] at h
  obtain ⟨value, hvalue, hcarries⟩ := Config.carries_of_resolve h key
  refine ⟨value, ?_, hcarries⟩
  rwa [get_layered, Option.or_assoc, Option.or_self] at hvalue

theorem timeout_of_loadConfig {files : Files} {options : GlobalOptions} {config : Config}
    (h : loadConfig files options = .ok config) : 1 ≤ config.timeout := by
  obtain ⟨low, -, hresolve⟩ := exists_fileLayer h
  exact Config.resolve_timeout hresolve

/-- Only a file sets the replication. -/
theorem replication_of_loadConfig {files : Files} {options : GlobalOptions} {low : Layer}
    {config : Config} (hfile : fileLayer files options = .ok low)
    (h : loadConfig files options = .ok config) :
    config.replication = low.replication.getD .standard := by
  obtain ⟨setting, hsetting, hcarries⟩ := carries_of_loadConfig hfile h .replication
  rw [show options.given .replication = none from rfl, Option.none_or,
    show Layer.defaults.get .replication = some Replication.standard from rfl, Option.or_some,
    Option.some.injEq] at hsetting
  exact hcarries.trans hsetting.symm

/-- A refresh that is forbidden is not made, whoever asks for it. -/
theorem refresh_of_loadConfig {files : Files} {options : GlobalOptions} {config : Config}
    (hforbidden : options.noRefresh = true) (h : loadConfig files options = .ok config) :
    config.refresh = false := by
  obtain ⟨low, hfile, -⟩ := exists_fileLayer h
  obtain ⟨value, hvalue, hcarries⟩ := carries_of_loadConfig hfile h .refresh
  have hgiven : options.given .refresh = some false := if_pos hforbidden
  rw [hgiven, Option.some_or, Option.some_or, Option.some.injEq] at hvalue
  exact hcarries.trans hvalue.symm

/-- **Layered configuration.** At each key a stack of layers has the value of the highest layer that
sets it; overlaying is associative, and a layer that sets nothing is neutral to it; and the
configuration that a stack describes does not depend on what is overridden, even if that is invalid.
A command takes each value from its options, or else from the environment, or else from the file, or
else from the defaults. The replication comes from the file alone, and a refresh that is forbidden
is not made, whatever the file, the environment and the options say. -/
theorem configuration_layers :
    (∀ (layers : List Layer) (key : ConfigKey),
      (∀ value, (Layer.stack layers).get key = some value ↔
        ∃ lower layer higher, layers = lower ++ layer :: higher ∧ layer.get key = some value ∧
          ∀ above ∈ higher, above.get key = none) ∧
      ((Layer.stack layers).get key = none ↔ ∀ layer ∈ layers, layer.get key = none)) ∧
    (∀ a b c : Layer, (a.overlay b).overlay c = a.overlay (b.overlay c)) ∧
    (∀ layer : Layer, Layer.empty.overlay layer = layer ∧ layer.overlay .empty = layer) ∧
    (∀ lower lower' higher : List Layer,
      (∀ key, (∀ layer ∈ higher, layer.get key = none) →
        (Layer.stack lower).get key = (Layer.stack lower').get key) →
      Config.resolve (Layer.stack (lower ++ higher)) =
        Config.resolve (Layer.stack (lower' ++ higher))) ∧
    (∀ (files : Files) (options : GlobalOptions) (low : Layer),
      fileLayer files options = .ok low →
      loadConfig files options = (Config.resolve (layered low options)).mapError .config ∧
      (∀ key, (layered low options).get key =
        ((options.given key).or (low.get key)).or (Layer.defaults.get key)) ∧
      ∀ config, loadConfig files options = .ok config →
        (∀ key, ∃ value,
          ((options.given key).or (low.get key)).or (Layer.defaults.get key) = some value ∧
            config.Carries key value) ∧
        config.replication = low.replication.getD .standard ∧
        (options.noRefresh = true → config.refresh = false)) ∧
    ∀ (environment : String → Option String) (options filled : GlobalOptions),
      options.fill environment = .ok filled →
      filled.configFile = options.configFile ∧
      (∀ key, filled.given key =
        (options.given key).or (GlobalOptions.ofEnvironment environment key)) ∧
      (options.noRefresh = true → ∀ files config,
        loadConfig files filled = .ok config → config.refresh = false) := by
  refine ⟨fun layers key => ⟨fun value => Layer.get_stack_eq_some_iff,
    Layer.get_stack_eq_none_iff⟩, Layer.overlay_assoc,
    fun layer => ⟨layer.empty_overlay, layer.overlay_empty⟩,
    fun lower lower' higher h => Config.resolve_stack_append h, ?_, ?_⟩
  · intro files options low hfile
    refine ⟨loadConfig_eq hfile, get_layered low options, fun config h => ?_⟩
    exact ⟨carries_of_loadConfig hfile h, replication_of_loadConfig hfile h,
      fun hforbidden => refresh_of_loadConfig hforbidden h⟩
  · intro environment options filled hfill
    have hfilled := GlobalOptions.fillsUp_foldlM hfill
    refine ⟨hfilled.configFile, GlobalOptions.given_fill hfill,
      fun hforbidden files config h => ?_⟩
    exact refresh_of_loadConfig (hfilled.noRefresh.trans hforbidden) h

namespace Sample

/-- A file that asks for a refresh and has a keyspace whose name is not valid. -/
def refreshing : Files where
  entries := [(["c.yaml"], .file "keyspace: 1st\nrefresh: true\n".toUTF8)]

/-- The layer in the file. -/
def lowLayer : Layer := { keyspace := some "1st", refresh := some true }

/-- Options that name the file, ask for a refresh and forbid it. -/
def forbidding : GlobalOptions where
  configFile := some "c.yaml"
  scriptDirectory := some "cql"
  keyspace := some "sales"
  table := some "ledger"
  noRefresh := true

/-- An environment that asks for a refresh too. -/
def asking (name : String) : Option String :=
  if name = ConfigKey.refresh.environmentName then some "yes" else none

/-- A port that is not valid. -/
def zeroPort : Layer := { database := some { port := some 0 } }

/-- A port that is. -/
def validPort : Layer := { database := some { port := some 9042 } }

/-- A layer whose section for the database is blank. -/
def blankSection : Layer := { database := some {} }

/-- The options with what the environment adds. -/
def filled : GlobalOptions := { forbidding with refresh := some true }

/-- The configuration that comes of all this. -/
def loaded : Config where
  database := {}
  scriptDirectory := "cql"
  keyspace := ⟨"sales", by decide⟩
  table := ⟨"ledger", by decide⟩
  refresh := false
  verifyChecksums := false
  timeoutSeconds := 10
  replication := .standard

theorem fill_forbidding : forbidding.fill asking = .ok filled := rfl

theorem fileLayer_refreshing : fileLayer refreshing filled = .ok lowLayer := by
  have hsome : (fileLayer refreshing filled).toOption = some lowLayer := by decide +kernel
  rcases hfile : fileLayer refreshing filled with error | layer <;> rw [hfile] at hsome
  · cases hsome
  · exact congrArg Except.ok (Option.some.inj hsome)

end Sample

/-- An invalid port below a valid one makes no difference, nor does a section without a key; and a
refresh that the file and the environment ask for is forbidden by an option. -/
theorem configuration_layers_sample :
    Config.resolve (Layer.stack ([Sample.zeroPort] ++ [Sample.validPort])) =
        Config.resolve (Layer.stack ([Sample.blankSection] ++ [Sample.validPort])) ∧
      fileLayer Sample.refreshing Sample.filled = .ok Sample.lowLayer ∧
      loadConfig Sample.refreshing Sample.filled = .ok Sample.loaded ∧
      Sample.loaded.replication = Sample.lowLayer.replication.getD .standard ∧
      Sample.forbidding.fill Sample.asking = .ok Sample.filled ∧
      Sample.filled.given .refresh = some false ∧ Sample.loaded.refresh = false := by
  obtain ⟨-, -, -, hindependent, hload, hfill⟩ := configuration_layers
  have hfile := Sample.fileLayer_refreshing
  obtain ⟨hresolve, -, hloaded⟩ := hload Sample.refreshing Sample.filled Sample.lowLayer hfile
  have hconfig : loadConfig Sample.refreshing Sample.filled = .ok Sample.loaded :=
    hresolve.trans rfl
  obtain ⟨-, hreplication, -⟩ := hloaded Sample.loaded hconfig
  obtain ⟨-, hgiven, hforbidden⟩ := hfill Sample.asking Sample.forbidding Sample.filled
    Sample.fill_forbidding
  refine ⟨hindependent _ _ _ fun key hunset => ?_, hfile, hconfig, hreplication,
    Sample.fill_forbidding, hgiven .refresh, hforbidden rfl _ _ hconfig⟩
  cases key with
  | port => exact absurd (hunset Sample.validPort (List.mem_singleton.mpr rfl)) nofun
  | _ => rfl

end SchemaMigration.CommandLine
