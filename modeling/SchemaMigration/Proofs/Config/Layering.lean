import SchemaMigration.Config

/-!
# Stacks of configuration layers

A layer is looked at key by key: the four keys of the database each on its own, although they share
a section, and the others as they are. Overlaying is then the choice of the higher value at each
key, and a configuration depends on a stack through those choices alone.

* `Layer.get`: the value that a layer sets a key to; a section that is there but blank sets none.
* `Layer.get_overlay`, `Layer.overlay_assoc`, `Layer.empty_overlay`, `Layer.overlay_empty`: the laws
  of overlaying.
* `Layer.get_stack_eq_some_iff`, `Layer.get_stack_eq_none_iff`: a stack has at a key the value of
  the highest layer that sets it.
* `Config.resolve_congr`, `Config.resolve_stack_append`: what is overridden does not matter, valid
  or not.
-/

namespace SchemaMigration

/-! ## The keys of a layer -/

/-- What a key may be set to. -/
abbrev ConfigKey.Value : ConfigKey → Type
  | .backend | .databasePath | .host | .scriptDirectory | .keyspace | .table => String
  | .port => UInt16
  | .refresh | .verifyChecksums => Bool
  | .statementTimeout => UInt64
  | .replication => Replication

namespace Layer

/-- The value that a layer sets a key to, if it sets it. -/
def get (layer : Layer) : (key : ConfigKey) → Option key.Value
  | .backend => layer.database.bind DatabaseLayer.backend
  | .databasePath => layer.database.bind DatabaseLayer.path
  | .host => layer.database.bind DatabaseLayer.host
  | .port => layer.database.bind DatabaseLayer.port
  | .scriptDirectory => layer.scriptDirectory
  | .keyspace => layer.keyspace
  | .table => layer.table
  | .refresh => layer.refresh
  | .verifyChecksums => layer.verifyChecksums
  | .statementTimeout => layer.timeoutSeconds
  | .replication => layer.replication

@[simp] theorem get_empty (key : ConfigKey) : Layer.empty.get key = none := by
  cases key <;> rfl

/-- Whether the section is there makes no difference; only what it sets does. -/
theorem database_getD (layer : Layer) :
    layer.database.getD {} =
      ⟨layer.get .backend, layer.get .databasePath, layer.get .host, layer.get .port⟩ := by
  simp only [get]
  rcases layer.database with _ | database
  · rfl
  · rfl

end Layer

/-! ## The laws of overlaying -/

theorem DatabaseLayer.overlay_assoc (a b c : DatabaseLayer) :
    (a.overlay b).overlay c = a.overlay (b.overlay c) := by
  simp only [DatabaseLayer.overlay, Option.or_assoc]

theorem overlayDatabase_none_left (high : Option DatabaseLayer) :
    overlayDatabase none high = high := by
  cases high <;> rfl

theorem overlayDatabase_none_right (low : Option DatabaseLayer) :
    overlayDatabase low none = low := by
  cases low <;> rfl

theorem overlayDatabase_assoc (a b c : Option DatabaseLayer) :
    overlayDatabase (overlayDatabase a b) c = overlayDatabase a (overlayDatabase b c) := by
  rcases a with _ | a
  · simp only [overlayDatabase_none_left]
  rcases b with _ | b
  · simp only [overlayDatabase_none_left, overlayDatabase_none_right]
  rcases c with _ | c
  · simp only [overlayDatabase_none_right]
  · simp only [overlayDatabase, DatabaseLayer.overlay_assoc]

/-- A key of the section, whether or not either layer has the section. -/
theorem bind_overlayDatabase {α : Type} (field : DatabaseLayer → Option α)
    (hfield : ∀ low high : DatabaseLayer, field (low.overlay high) = (field high).or (field low))
    (low high : Option DatabaseLayer) :
    (overlayDatabase low high).bind field = (high.bind field).or (low.bind field) := by
  rcases low with _ | low <;> rcases high with _ | high
  · rfl
  · simp [overlayDatabase]
  · simp [overlayDatabase]
  · simpa [overlayDatabase] using hfield low high

namespace Layer

/-- At each key the higher layer wins, if it sets the key. -/
theorem get_overlay (low high : Layer) (key : ConfigKey) :
    (low.overlay high).get key = (high.get key).or (low.get key) := by
  cases key with
  | backend => exact bind_overlayDatabase DatabaseLayer.backend (fun _ _ => rfl) _ _
  | databasePath => exact bind_overlayDatabase DatabaseLayer.path (fun _ _ => rfl) _ _
  | host => exact bind_overlayDatabase DatabaseLayer.host (fun _ _ => rfl) _ _
  | port => exact bind_overlayDatabase DatabaseLayer.port (fun _ _ => rfl) _ _
  | _ => rfl

theorem overlay_assoc (a b c : Layer) :
    (a.overlay b).overlay c = a.overlay (b.overlay c) := by
  simp only [overlay, overlayDatabase_assoc, Option.or_assoc]

theorem empty_overlay (layer : Layer) : Layer.empty.overlay layer = layer := by
  simp only [overlay, empty, overlayDatabase_none_left, Option.or_none]

theorem overlay_empty (layer : Layer) : layer.overlay Layer.empty = layer := by
  simp only [overlay, empty, overlayDatabase_none_right, Option.none_or]

/-! ## Stacks -/

/-- The layers of a list in one, the lowest first. -/
def stack (layers : List Layer) : Layer :=
  layers.foldl overlay .empty

@[simp] theorem stack_nil : stack [] = .empty := rfl

theorem foldl_overlay (low : Layer) (layers : List Layer) :
    layers.foldl overlay low = low.overlay (stack layers) := by
  induction layers generalizing low with
  | nil => exact (overlay_empty low).symm
  | cons layer layers ih =>
    rw [stack, List.foldl_cons, List.foldl_cons, ih, ih, empty_overlay, overlay_assoc]

theorem stack_append (lower higher : List Layer) :
    stack (lower ++ higher) = (stack lower).overlay (stack higher) := by
  rw [stack, List.foldl_append, ← stack, foldl_overlay]

theorem stack_cons (layer : Layer) (layers : List Layer) :
    stack (layer :: layers) = layer.overlay (stack layers) := by
  rw [stack, List.foldl_cons, empty_overlay, foldl_overlay]

/-- The choice at a key is made between the layers from the highest down. -/
theorem get_stack (layers : List Layer) (key : ConfigKey) :
    (stack layers).get key = layers.reverse.findSome? fun layer => layer.get key := by
  induction layers with
  | nil => exact get_empty key
  | cons layer layers ih =>
    -- the lowest layer is asked last
    rw [stack_cons, get_overlay, ih, List.reverse_cons, List.findSome?_append]
    simp

theorem get_stack_eq_none_iff {layers : List Layer} {key : ConfigKey} :
    (stack layers).get key = none ↔ ∀ layer ∈ layers, layer.get key = none := by
  simp [get_stack]

/-- A value of a stack stands in the highest layer that sets the key. -/
theorem get_stack_eq_some_iff {layers : List Layer} {key : ConfigKey} {value : key.Value} :
    (stack layers).get key = some value ↔
      ∃ lower layer higher, layers = lower ++ layer :: higher ∧ layer.get key = some value ∧
        ∀ above ∈ higher, above.get key = none := by
  constructor
  · intro h
    rw [get_stack, List.findSome?_eq_some_iff] at h
    obtain ⟨above, layer, below, hsplit, hvalue, habove⟩ := h
    refine ⟨below.reverse, layer, above.reverse, ?_, hvalue, ?_⟩
    · rw [← List.reverse_reverse layers, hsplit]
      simp
    · intro other hother
      exact habove other (List.mem_reverse.mp hother)
  · rintro ⟨lower, layer, higher, rfl, hvalue, hhigher⟩
    rw [stack_append, stack_cons, get_overlay, get_overlay, get_stack_eq_none_iff.mpr hhigher,
      hvalue]
    rfl

end Layer

namespace Config

/-! ## What a configuration depends on -/

/-- Layers that set the keys alike describe the same configuration, or are refused alike. -/
theorem resolve_congr {a b : Layer} (h : ∀ key, a.get key = b.get key) : resolve a = resolve b := by
  have hdatabase : a.database.getD {} = b.database.getD {} := by
    rw [a.database_getD, b.database_getD, h .backend, h .databasePath, h .host, h .port]
  have hscripts : a.scriptDirectory = b.scriptDirectory := h .scriptDirectory
  have hkeyspace : a.keyspace = b.keyspace := h .keyspace
  have htable : a.table = b.table := h .table
  have hrefresh : a.refresh = b.refresh := h .refresh
  have hverify : a.verifyChecksums = b.verifyChecksums := h .verifyChecksums
  have htimeout : a.timeoutSeconds = b.timeoutSeconds := h .statementTimeout
  have hreplication : a.replication = b.replication := h .replication
  simp only [resolve, hdatabase, hscripts, hkeyspace, htable, hrefresh, hverify, htimeout,
    hreplication]

/-- Under layers that override all in which two stacks differ, these make no difference. -/
theorem resolve_stack_append {lower lower' higher : List Layer}
    (h : ∀ key, (∀ layer ∈ higher, layer.get key = none) →
      (Layer.stack lower).get key = (Layer.stack lower').get key) :
    resolve (Layer.stack (lower ++ higher)) = resolve (Layer.stack (lower' ++ higher)) := by
  refine resolve_congr fun key => ?_
  rw [Layer.stack_append, Layer.stack_append, Layer.get_overlay, Layer.get_overlay]
  rcases hset : (Layer.stack higher).get key with _ | value
  · -- only such a key is looked up in the layers below
    rw [h key (Layer.get_stack_eq_none_iff.mp hset)]
  · rfl

end Config

end SchemaMigration
