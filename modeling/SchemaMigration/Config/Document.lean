import SchemaMigration.Config
import SchemaMigration.Text.Blank
import SchemaMigration.Yaml.Node
import SchemaMigration.Yaml.Value

/-!
# Configuration files

A configuration file is a YAML document: a mapping from the keys of a layer to their values. A value
of the wrong kind is an error that says where it stands; so is a key that is not known.

* `DocumentError` is what can be wrong with a document.
* `Layer.ofNode` reads a layer from a document.
* `Layer.ofYaml` reads a layer from a text.
-/

namespace SchemaMigration

/-! ## Errors -/

/-- What is wrong with a value. -/
inductive ValueFault where
  /-- It is of another kind than expected. -/
  | wrongType (found expected : String)
  /-- It is of the right kind but not one of the values expected. -/
  | wrongValue (found expected : String)
  | unknownKey (name : String) (known : List String)
  | repeatedKey (name : String)
  | missingKey (name : String)
  | unknownStrategy (name : String)
  | wrongLength (found : Nat) (expected : String)
  /-- It has a tag where none is possible. -/
  | tagged
  /-- Collections are nested too deeply. -/
  | tooDeep
  /-- Aliases are followed too often. -/
  | tooManyAliases
  deriving DecidableEq, Repr

namespace ValueFault

/-- A name between backquotes. -/
def ticked (name : String) : String :=
  "\x60" ++ name ++ "\x60"

/-- The names that are possible, as a phrase. -/
def oneOf : List String → String
  | [a, b] => ticked a ++ " or " ++ ticked b
  | names => "one of " ++ ", ".intercalate (names.map ticked)

/-- The names of the replication strategies. -/
def strategies : List String := ["SimpleStrategy", "NetworkTopologyStrategy"]

/-- A fault in words. -/
def message : ValueFault → String
  | wrongType found expected => "invalid type: " ++ found ++ ", expected " ++ expected
  | wrongValue found expected => "invalid value: " ++ found ++ ", expected " ++ expected
  | unknownKey name known => "unknown field " ++ ticked name ++ ", expected " ++ oneOf known
  | repeatedKey name => "duplicate field " ++ ticked name
  | missingKey name => "missing field " ++ ticked name
  | unknownStrategy name => "unknown variant " ++ ticked name ++ ", expected " ++ oneOf strategies
  | wrongLength found expected =>
    "invalid length " ++ Text.decimal found ++ ", expected " ++ expected
  | tagged => "untagged and internally tagged enums do not support enum input"
  | tooDeep => "recursion limit exceeded"
  | tooManyAliases => "repetition limit exceeded"

/-- Whether it matters where the fault is. -/
def hasPlace : ValueFault → Bool
  | tooDeep | tooManyAliases => false
  | _ => true

end ValueFault

/-- A fault with the path to its place, which is empty at the top of the document. -/
structure ValueError where
  fault : ValueFault
  place : Option String := none
  deriving DecidableEq, Repr

/-- The error as it is reported. -/
def ValueError.message (e : ValueError) : String :=
  match e.place with
  | some path =>
    if path = "" || !e.fault.hasPlace then e.fault.message else path ++ ": " ++ e.fault.message
  | none => e.fault.message

/-- What is wrong with a configuration file. -/
inductive DocumentError where
  /-- It is not one well-formed document. -/
  | malformed
  | value (error : ValueError)
  deriving DecidableEq, Repr

namespace Document

/-! ## Reading values -/

/-- What a document's aliases stand for, and how many of them may be followed. -/
structure Aliases where
  nodes : List (Nat × Yaml.Node)
  limit : Nat

/-- A reading, which counts the aliases that it follows. -/
abbrev Reading (α : Type) := StateT Nat (Except ValueError) α

namespace Reading

/-- Fails with a fault. -/
def fail {α : Type} (fault : ValueFault) : Reading α :=
  fun _ => .error ⟨fault, none⟩

/-- A reading at a path, whose faults are there unless they are further inside. -/
def at_ {α : Type} (path : String) (reading : Reading α) : Reading α :=
  fun count =>
    match reading count with
    | .ok result => .ok result
    | .error e => .error { e with place := e.place.or (some path) }

/-- The node behind an alias; any other node is itself. -/
def follow (aliases : Aliases) (node : Yaml.Node) : Reading Yaml.Node :=
  match node with
  | .aliasTo number => fun count =>
    if aliases.limit ≤ count then .error ⟨.tooManyAliases, none⟩
    else
      match aliases.nodes.reverse.find? fun entry => entry.1 == number with
      | some (_, target) => .ok (target, count + 1)
      | none => .ok (Yaml.Node.blank, count + 1)
  | other => return other

end Reading

open Reading

/-- The tags of the core schema. -/
def coreTag (name : String) : String :=
  "tag:yaml.org,2002:" ++ name

/-- What a scalar stands for. A tag of the core schema asks for a kind of value, and a scalar that
is not of that kind is an error. -/
def scalarMeaning (tag : Option String) (plain : Bool) (text : String) :
    Except ValueFault Yaml.Meaning :=
  let wrong (expected : String) : Except ValueFault Yaml.Meaning :=
    .error (.wrongValue ("string " ++ Text.quoted text) expected)
  match tag with
  | none => .ok (if plain then Yaml.resolve text else .text text)
  | some tag =>
    if tag = coreTag "bool" then
      match Yaml.parseBool? text with
      | some b => .ok (.bool b)
      | none => wrong "a boolean"
    else if tag = coreTag "int" then
      match Yaml.parseInteger? text with
      | some n => .ok n
      | none => wrong "an integer"
    else if tag = coreTag "float" then
      match Yaml.parseFloat? text with
      | some x => .ok (.float x)
      | none => wrong "a float"
    else if tag = coreTag "null" then
      if Yaml.isNullText text then .ok .null else wrong "null"
    else if tag.toList.head? = some '!' && plain then .ok (Yaml.resolve text)
    else .ok (.text text)

/-- The fault of a node of another kind than expected. -/
def unexpected (node : Yaml.Node) (expected : String) : ValueFault :=
  match node with
  | .scalar _ tag plain _ text =>
    match scalarMeaning tag plain text with
    | .ok meaning => .wrongType meaning.describe expected
    | .error fault => fault
  | .sequence _ _ _ => .wrongType "sequence" expected
  | .mapping _ _ _ => .wrongType "map" expected
  | .aliasTo _ => .wrongType "unit value" expected

/-- Whether a scalar may stand for a value of a core kind: it is plain, or literal with the tag. -/
def allowsKind (name : String) (tag : Option String) (plain literal : Bool) : Bool :=
  plain || (literal && tag == some (coreTag name))

/-- The text of a scalar, whatever it stands for. -/
def readText (aliases : Aliases) (expected path : String) (node : Yaml.Node) : Reading String :=
  at_ path do
    match ← follow aliases node with
    | .scalar _ _ _ _ text => return text
    | other => fail (unexpected other expected)

/-- A truth value. -/
def readBool (aliases : Aliases) (path : String) (node : Yaml.Node) : Reading Bool :=
  at_ path do
    let node ← follow aliases node
    let value := match node with
      | .scalar _ tag plain literal text =>
        if allowsKind "bool" tag plain literal then Yaml.parseBool? text else none
      | _ => none
    match value with
    | some b => return b
    | none => fail (unexpected node "a boolean")

/-- A natural number below a power of two, for an unsigned type of so many bits. -/
def readNat (aliases : Aliases) (bits : Nat) (path : String) (node : Yaml.Node) : Reading Nat :=
  at_ path do
    let node ← follow aliases node
    let expected := "u" ++ Text.decimal bits
    let value := match node with
      | .scalar _ tag plain literal text =>
        if allowsKind "int" tag plain literal then Yaml.parseNat? (twoTo 64) text.toList else none
      | _ => none
    match value with
    | some n =>
      if n < twoTo bits then return n
      else fail (.wrongValue (Yaml.Meaning.int n).describe expected)
    | none => fail (unexpected node expected)

/-- A value that may be left out: a blank or null scalar is none. -/
def readOptional {α : Type} (aliases : Aliases) (read : Yaml.Node → Reading α)
    (node : Yaml.Node) : Reading (Option α) := do
  let node ← follow aliases node
  match node with
  | .scalar _ none true _ text =>
    if text = "" || Yaml.isNullText text then return none else return some (← read node)
  | .scalar _ (some tag) true _ text =>
    if tag = coreTag "null" then
      if Yaml.isNullText text then return none
      else fail (.wrongValue ("string " ++ Text.quoted text) "null")
    else return some (← read node)
  | _ => return some (← read node)

/-! ## Mappings with known keys -/

/-- The path of an entry's value. -/
def entryPath (path : String) (key : Yaml.Node) : String :=
  let name := match key with
    | .scalar _ _ _ _ text => text
    | _ => "?"
  if path = "" then name else path ++ "." ++ name

/-- The greatest depth of nested collections. -/
def maxDepth : Nat := 128

/-- Reads the entries of a mapping in order, each into what has been read so far. A key has to be
known and may come only once. -/
def readEntries {α : Type} (aliases : Aliases) (known : List String) (path : String)
    (readEntry : String → String → Yaml.Node → α → Reading α) :
    List String → α → List (Yaml.Node × Yaml.Node) → Reading α
  | _, value, [] => return value
  | seen, value, (key, node) :: rest => do
    let name ← readText aliases "field identifier" path key
    if !known.contains name then at_ path (fail (.unknownKey name known))
    else if seen.contains name then fail (.repeatedKey name)
    else
      let value ← readEntry name (entryPath path key) node value
      readEntries aliases known path readEntry (name :: seen) value rest

/-- Reads a mapping with known keys. A blank is a mapping without entries. -/
def readRecord {α : Type} (aliases : Aliases) (known : List String) (expected path : String)
    (start : α) (readEntry : String → String → Yaml.Node → α → Reading α) (node : Yaml.Node) :
    Reading α :=
  at_ path do
    let node ← follow aliases node
    match node with
    | .mapping _ _ entries => readEntries aliases known path readEntry [] start entries
    | .scalar _ _ true _ "" => return start
    | _ => fail (unexpected node expected)

/-! ## Replication -/

/-- A value whose kind is not known beforehand. -/
inductive Loose where
  | meaning (value : Yaml.Meaning)
  | list (items : List Loose)
  | map (entries : List (Loose × Loose))
  deriving Inhabited

/-- What kind of value it is, as messages say. -/
def Loose.describe : Loose → String
  | .meaning value => value.describe
  | .list _ => "sequence"
  | .map _ => "map"

/-- Whether a node has a tag of its own making. -/
def hasLocalTag : Option String → Bool
  | some tag => tag.toList.head? = some '!'
  | none => false

/-- A scalar of any kind; integers have at most sixty-four bits. -/
def readMeaning (expected : String) (tag : Option String) (plain : Bool) (text : String) :
    Reading Loose :=
  match scalarMeaning tag plain text with
  | .ok (.bigInt n) => fail (.wrongType (Yaml.Meaning.bigInt n).describe expected)
  | .ok value => return .meaning value
  | .error fault => fail fault

/-- Reads the items of a sequence in order, counted from a number. -/
def readItems {α : Type} (read : String → Yaml.Node → Reading α) (path : String) :
    Nat → List Yaml.Node → Reading (List α)
  | _, [] => return []
  | number, node :: rest => do
    let top := if path = "" then "." else path
    let value ← read (top ++ "[" ++ Text.decimal number ++ "]") node
    let values ← readItems read path (number + 1) rest
    return value :: values

/-- Reads the entries of a mapping of any kind in order. -/
def readPairs {α : Type} (read : String → Yaml.Node → Reading α) (path : String) :
    List (Yaml.Node × Yaml.Node) → Reading (List (α × α))
  | [] => return []
  | (key, node) :: rest => do
    let name ← read path key
    let value ← read (entryPath path key) node
    let pairs ← readPairs read path rest
    return (name, value) :: pairs

/-- What a value of any kind is expected to be. -/
def anyValue : String := "any value"

/-- Reads a value of any kind whose collections are nested at most so deeply. -/
def readLoose (aliases : Aliases) : Nat → String → String → Yaml.Node → Reading Loose
  | depth, expected, path, node =>
    at_ path do
      match ← follow aliases node with
      | .scalar _ tag plain _ text =>
        if hasLocalTag tag then fail .tagged else readMeaning expected tag plain text
      | .sequence _ tag items =>
        if hasLocalTag tag then fail .tagged
        else match depth with
          | 0 => fail .tooDeep
          | depth + 1 => return .list (← readItems (readLoose aliases depth anyValue) path 0 items)
      | .mapping _ tag entries =>
        if hasLocalTag tag then fail .tagged
        else match depth with
          | 0 => fail .tooDeep
          | depth + 1 => return .map (← readPairs (readLoose aliases depth anyValue) path entries)
      | .aliasTo _ => fail .tagged

/-- A replication strategy. -/
inductive Strategy where
  | simple
  | networkTopology
  deriving DecidableEq, Repr

/-- The key that holds a strategy's setting. -/
def Strategy.key : Strategy → String
  | .simple => "replication_factor"
  | .networkTopology => "datacenters"

/-- The name of a strategy. -/
def Strategy.name : Strategy → String
  | .simple => "SimpleStrategy"
  | .networkTopology => "NetworkTopologyStrategy"

/-- Reads the name of a strategy. -/
def readStrategy (aliases : Aliases) (path : String) (node : Yaml.Node) : Reading Strategy := do
  let name ← readText aliases "variant identifier" path node
  if name = Strategy.simple.name then return .simple
  else if name = Strategy.networkTopology.name then return .networkTopology
  else at_ path (fail (.unknownStrategy name))

/-- The key that holds the name of the strategy. -/
def strategyKey : String := "class"

/-- What a key of a replication mapping is expected to be. -/
def strategyKeyKind : String :=
  "a type tag " ++ ValueFault.ticked strategyKey ++ " or any other value"

/-- Whether a key is the one that holds the name of the strategy. -/
def isStrategyKey : Loose → Bool
  | .meaning (.text name) => name == strategyKey
  | _ => false

/-- Splits the entries of a replication mapping into the strategy and the others. -/
def readStrategyEntries (aliases : Aliases) (depth : Nat) (path : String) :
    Option Strategy → List (Yaml.Node × Yaml.Node) →
      Reading (Option Strategy × List (Loose × Loose))
  | strategy, [] => return (strategy, [])
  | strategy, (key, node) :: rest => do
    let name ← readLoose aliases depth strategyKeyKind path key
    if isStrategyKey name then
      if strategy.isSome then fail (.repeatedKey strategyKey)
      else
        let found ← readStrategy aliases (entryPath path key) node
        readStrategyEntries aliases depth path (some found) rest
    else
      let value ← readLoose aliases depth anyValue (entryPath path key) node
      let (strategy, others) ← readStrategyEntries aliases depth path strategy rest
      return (strategy, (name, value) :: others)

/-- A replication factor. -/
def looseFactor (value : Loose) : Except ValueFault UInt8 :=
  match value with
  | .meaning (.int n) =>
    if 0 ≤ n ∧ n < 256 then .ok (UInt8.ofNat n.toNat)
    else .error (.wrongValue value.describe "u8")
  | _ => .error (.wrongType value.describe "u8")

/-- The factors of datacenters. -/
def looseFactors : List (Loose × Loose) → Except ValueFault (List (String × UInt8))
  | [] => .ok []
  | (key, value) :: rest =>
    match key with
    | .meaning (.text name) => do
      let factor ← looseFactor value
      let others ← looseFactors rest
      .ok ((name, factor) :: others)
    | _ => .error (.wrongType key.describe "a string")

/-- The replication of a strategy with its setting. -/
def looseSetting (strategy : Strategy) (value : Loose) : Except ValueFault Replication :=
  match strategy with
  | .simple => do return .simple (← looseFactor value)
  | .networkTopology =>
    match value with
    | .map entries => do return .perDatacenter (.ofList (← looseFactors entries))
    | other => .error (.wrongType other.describe "a map")

/-- Whether a key names the setting of a strategy: by its name or by the number of its place. -/
def isSettingKey (strategy : Strategy) (key : Loose) : Except ValueFault Bool :=
  match key with
  | .meaning (.text name) => .ok (name == strategy.key)
  | .meaning (.int n) =>
    if 0 ≤ n then .ok (n == 0) else .error (.wrongType key.describe "field identifier")
  | other => .error (.wrongType other.describe "field identifier")

/-- The replication that the entries of a mapping set. Other keys are passed over. -/
def looseEntries (strategy : Strategy) :
    Option Replication → List (Loose × Loose) → Except ValueFault Replication
  | some replication, [] => .ok replication
  | none, [] => .error (.missingKey strategy.key)
  | setting, (key, value) :: rest => do
    if ← isSettingKey strategy key then
      if setting.isSome then .error (.repeatedKey strategy.key)
      else looseEntries strategy (some (← looseSetting strategy value)) rest
    else looseEntries strategy setting rest

/-- The replication that the items of a sequence behind the strategy set: exactly one. -/
def looseItems (strategy : Strategy) (items : List Loose) : Except ValueFault Replication :=
  match items with
  | [] =>
    .error (.wrongLength 0
      ("struct variant Replication::" ++ strategy.name ++ " with 1 element"))
  | value :: rest => do
    let replication ← looseSetting strategy value
    if rest.isEmpty then .ok replication
    else .error (.wrongLength items.length "1 element in sequence")

/-- A reading that has its result already. -/
def settled {α : Type} : Except ValueFault α → Reading α
  | .ok value => return value
  | .error fault => fail fault

/-- What a replication setting is expected to be. -/
def replicationKind : String := "internally tagged enum Replication"

/-- Splits a replication setting into the strategy and a reading of the rest. -/
def readReplicationParts (aliases : Aliases) (depth : Nat) (path : String) (node : Yaml.Node) :
    Reading (Except ValueFault Replication) :=
  at_ path do
    let node ← follow aliases node
    let tagFault : ValueFault := .wrongType "enum" replicationKind
    match node with
    | .mapping _ tag entries =>
      if hasLocalTag tag then fail tagFault
      else
        let (strategy, others) ← readStrategyEntries aliases depth path none entries
        match strategy with
        | some strategy => return looseEntries strategy none others
        | none => fail (.missingKey strategyKey)
    | .sequence _ tag items =>
      if hasLocalTag tag then fail tagFault
      else match items with
        | [] => fail (.missingKey strategyKey)
        | first :: rest =>
          let strategy ← readStrategy aliases (path ++ "[0]") first
          let values ← readItems (readLoose aliases depth anyValue) path 1 rest
          return looseItems strategy values
    | .scalar _ tag _ _ _ =>
      if hasLocalTag tag then fail tagFault else fail (unexpected node replicationKind)
    | .aliasTo _ => fail tagFault

/-- Reads a replication setting. What is wrong with the setting of the strategy is reported without
its place. -/
def readReplication (aliases : Aliases) (depth : Nat) (path : String) (node : Yaml.Node) :
    Reading Replication := do
  settled (← readReplicationParts aliases depth path node)

/-! ## Layers -/

/-- The keys of the database's mapping. -/
def databaseKeys : List String := ["backend", "path", "host", "port"]

/-- Reads an entry of the database's mapping. -/
def readDatabaseEntry (aliases : Aliases) (name path : String) (node : Yaml.Node)
    (layer : DatabaseLayer) : Reading DatabaseLayer := do
  let text := readOptional aliases (readText aliases "a string" path) node
  match name with
  | "backend" => return { layer with backend := ← text }
  | "path" => return { layer with path := ← text }
  | "host" => return { layer with host := ← text }
  | _ =>
    let port ← readOptional aliases (readNat aliases 16 path) node
    return { layer with port := port.map UInt16.ofNat }

/-- Reads the database's mapping. -/
def readDatabase (aliases : Aliases) (path : String) (node : Yaml.Node) : Reading DatabaseLayer :=
  readRecord aliases databaseKeys "struct RawDatabaseConfig" path {} (readDatabaseEntry aliases) node

/-- The keys of a layer. -/
def layerKeys : List String :=
  ["database", "cql_dir", "keyspace", "table", "refresh", "verify_checksums",
    "statement_timeout_secs", "replication"]

/-- Reads an entry of a layer. -/
def readLayerEntry (aliases : Aliases) (name path : String) (node : Yaml.Node) (layer : Layer) :
    Reading Layer := do
  let optional {α : Type} (read : Yaml.Node → Reading α) := readOptional aliases read node
  match name with
  | "database" => return { layer with database := ← optional (readDatabase aliases path) }
  | "cql_dir" =>
    return { layer with scriptDirectory := ← optional (readText aliases "path string" path) }
  | "keyspace" => return { layer with keyspace := ← optional (readText aliases "a string" path) }
  | "table" => return { layer with table := ← optional (readText aliases "a string" path) }
  | "refresh" => return { layer with refresh := ← optional (readBool aliases path) }
  | "verify_checksums" =>
    return { layer with verifyChecksums := ← optional (readBool aliases path) }
  | "statement_timeout_secs" =>
    let seconds ← optional (readNat aliases 64 path)
    return { layer with timeoutSeconds := seconds.map UInt64.ofNat }
  | _ =>
    -- The document's mapping and the setting itself are two of the collections.
    return { layer with replication := ← optional (readReplication aliases (maxDepth - 2) path) }

/-- How many aliases may be followed for each event of a document. -/
def aliasesPerEvent : Nat := 100

/-- Reads the mapping of a whole document. -/
def readLayer (root : Yaml.Node) : Reading Layer :=
  let aliases : Aliases := ⟨root.anchored, aliasesPerEvent * root.size⟩
  readRecord aliases layerKeys "struct RawConfig" "" {} (readLayerEntry aliases) root

end Document

/-- Reads a layer from a document. -/
def Layer.ofNode (root : Yaml.Node) : Except ValueError Layer :=
  (Document.readLayer root).run' 0

/-- Reads a layer from a text. A blank text and one without a document set nothing. -/
def Layer.ofYaml (text : String) : Except DocumentError Layer :=
  if (Text.trim text.toList).isEmpty then .ok .empty
  else
    match Yaml.Stream.ofText? text with
    | none => .error .malformed
    | some .empty => .ok .empty
    | some (.document root) => (Layer.ofNode root).mapError .value

end SchemaMigration
