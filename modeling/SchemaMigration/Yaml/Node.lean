import SchemaMigration.Yaml.Layout

/-!
# YAML documents

A document as a tree of scalars, sequences and mappings, with its anchors numbered.

* `Node.anchored` lists the nodes that have an anchor.
* `Stream.ofText?` reads a text that is at most one document; anything else is malformed.
-/

namespace SchemaMigration.Yaml

/-- A node of a document. An anchor is the number of the name that the node is given. -/
inductive Node where
  | scalar (anchor : Option Nat) (tag : Option String) (plain literal : Bool) (text : String)
  | sequence (anchor : Option Nat) (tag : Option String) (items : List Node)
  | mapping (anchor : Option Nat) (tag : Option String) (entries : List (Node × Node))
  | aliasTo (anchor : Nat)
  deriving Inhabited, Repr

namespace Node

/-- The plain scalar without text. -/
def blank : Node := .scalar none none true false ""

mutual

/-- The nodes with an anchor in a tree, each in front of those inside it. -/
def anchored : Node → List (Nat × Node)
  | .scalar anchor tag plain literal text =>
    match anchor with
    | some a => [(a, .scalar anchor tag plain literal text)]
    | none => []
  | .sequence anchor tag items =>
    let inner := anchoredItems items
    match anchor with
    | some a => (a, .sequence anchor tag items) :: inner
    | none => inner
  | .mapping anchor tag entries =>
    let inner := anchoredEntries entries
    match anchor with
    | some a => (a, .mapping anchor tag entries) :: inner
    | none => inner
  | .aliasTo _ => []

/-- The nodes with an anchor in the items of a sequence. -/
def anchoredItems : List Node → List (Nat × Node)
  | [] => []
  | node :: rest => anchored node ++ anchoredItems rest

/-- The nodes with an anchor in the entries of a mapping. -/
def anchoredEntries : List (Node × Node) → List (Nat × Node)
  | [] => []
  | (key, value) :: rest => anchored key ++ anchored value ++ anchoredEntries rest

end

mutual

/-- How many events a tree is: one for each scalar and alias, two for each collection. -/
def size : Node → Nat
  | .scalar _ _ _ _ _ => 1
  | .aliasTo _ => 1
  | .sequence _ _ items => 2 + sizeItems items
  | .mapping _ _ entries => 2 + sizeEntries entries

/-- How many events the items of a sequence are. -/
def sizeItems : List Node → Nat
  | [] => 0
  | node :: rest => size node + sizeItems rest

/-- How many events the entries of a mapping are. -/
def sizeEntries : List (Node × Node) → Nat
  | [] => 0
  | (key, value) :: rest => size key + size value + sizeEntries rest

end

end Node

/-! ## From tokens to nodes -/

/-- What is left of the tokens, and the numbers of the anchors' names so far. -/
structure Source where
  tokens : List Token
  anchors : List (String × Nat)
  /-- What the handles of tags stand for. -/
  handles : List (String × String)

namespace Source

/-- The source without its first token. -/
def advance (s : Source) : Source :=
  { s with tokens := s.tokens.drop 1 }

/-- The source with a name given to the next anchored node, and the number of the name. A name that
is used again gets the number that a new one would get. -/
def giveName (s : Source) (name : String) : Nat × Source :=
  let number := s.anchors.length
  let others := s.anchors.filter fun entry => entry.1 != name
  (number, { s with anchors := (name, number) :: others })

/-- The number of a name. -/
def number? (s : Source) (name : String) : Option Nat :=
  (s.anchors.find? fun entry => entry.1 == name).map (·.2)

/-- The tag that a handle and a suffix stand for. -/
def resolveTag? (s : Source) (handle suffix : String) : Option String :=
  if handle = "" then some suffix
  else (s.handles.find? fun entry => entry.1 == handle).map fun entry => entry.2 ++ suffix

end Source

/-- The anchor and the tag in front of a node. -/
structure Properties where
  anchor : Option Nat := none
  tag : Option String := none

/-- Reads an anchor and a tag, in either order. -/
def takeProperties? (s : Source) : Option (Properties × Source) :=
  match s.tokens with
  | .anchor name :: .tag handle suffix :: _ => do
    let tag ← s.resolveTag? handle suffix
    let (number, s) := s.giveName name
    some (⟨some number, some tag⟩, s.advance.advance)
  | .tag handle suffix :: .anchor name :: _ => do
    let tag ← s.resolveTag? handle suffix
    let (number, s) := s.giveName name
    some (⟨some number, some tag⟩, s.advance.advance)
  | .anchor name :: _ =>
    let (number, s) := s.giveName name
    some (⟨some number, none⟩, s.advance)
  | .tag handle suffix :: _ => do
    let tag ← s.resolveTag? handle suffix
    some (⟨none, some tag⟩, s.advance)
  | _ => some ({}, s)

/-- A scalar with its properties. An exclamation mark alone is no tag. -/
def scalarNode (p : Properties) (plain literal : Bool) (text : String) : Node :=
  .scalar p.anchor (if p.tag = some "!" then none else p.tag) plain literal text

/-- Whether the next token ends the value of a key or of an entry in a block. -/
def endsBlockValue : List Token → Bool
  | .key :: _ | .value :: _ | .blockEnd :: _ => true
  | _ => false

/-- Where a node stands. -/
inductive Position where
  /-- In a block, where collections are indented. -/
  | block
  /-- Behind the key or the colon of a block mapping, where a sequence need not be indented. -/
  | blockValue
  /-- Between brackets. -/
  | flow
  deriving DecidableEq, Repr

mutual

/-- Reads a node. `fuel` bounds the depth of the reading, by the number of tokens. -/
def takeNode : Nat → Position → Source → Option (Node × Source)
  | 0, _, _ => none
  | fuel + 1, position, s =>
    match s.tokens with
    | .aliasTo name :: _ => (s.number? name).map fun n => (.aliasTo n, s.advance)
    | _ => do
      let (p, s) ← takeProperties? s
      match s.tokens, position with
      | .scalar plain literal text :: _, _ => some (scalarNode p plain literal text, s.advance)
      | .blockEntry :: _, .blockValue => do
        let (items, s) ← takeIndentless fuel s
        some (.sequence p.anchor p.tag items, s)
      | .flowSequence :: _, _ => do
        let (items, s) ← takeFlowItems fuel true s.advance
        some (.sequence p.anchor p.tag items, s)
      | .flowMapping :: _, _ => do
        let (entries, s) ← takeFlowEntries fuel true s.advance
        some (.mapping p.anchor p.tag entries, s)
      | .blockSequence :: _, .block | .blockSequence :: _, .blockValue => do
        let (items, s) ← takeBlockItems fuel s.advance
        some (.sequence p.anchor p.tag items, s)
      | .blockMapping :: _, .block | .blockMapping :: _, .blockValue => do
        let (entries, s) ← takeBlockEntries fuel s.advance
        some (.mapping p.anchor p.tag entries, s)
      | _, _ =>
        if p.anchor.isSome || p.tag.isSome then some (.scalar p.anchor p.tag true false "", s)
        else none

/-- Reads the items of a block sequence, up to and with its end. -/
def takeBlockItems : Nat → Source → Option (List Node × Source)
  | 0, _ => none
  | fuel + 1, s =>
    match s.tokens with
    | .blockEntry :: rest => do
      let s := s.advance
      let (item, s) ← match rest with
        | .blockEntry :: _ | .blockEnd :: _ => some (Node.blank, s)
        | _ => takeNode fuel .block s
      let (items, s) ← takeBlockItems fuel s
      some (item :: items, s)
    | .blockEnd :: _ => some ([], s.advance)
    | _ => none

/-- Reads the items of a sequence that is not indented, up to the first token that is none. -/
def takeIndentless : Nat → Source → Option (List Node × Source)
  | 0, _ => none
  | fuel + 1, s =>
    match s.tokens with
    | .blockEntry :: rest => do
      let s := s.advance
      let isBlank := endsBlockValue rest || match rest with
        | .blockEntry :: _ => true
        | _ => false
      let (item, s) ← if isBlank then some (Node.blank, s) else takeNode fuel .block s
      let (items, s) ← takeIndentless fuel s
      some (item :: items, s)
    | _ => some ([], s)

/-- Reads the entries of a block mapping, up to and with its end. -/
def takeBlockEntries : Nat → Source → Option (List (Node × Node) × Source)
  | 0, _ => none
  | fuel + 1, s =>
    match s.tokens with
    | .key :: rest => do
      let s := s.advance
      let (key, s) ←
        if endsBlockValue rest then some (Node.blank, s) else takeNode fuel .blockValue s
      let (value, s) ← takeBlockValue fuel s
      let (entries, s) ← takeBlockEntries fuel s
      some ((key, value) :: entries, s)
    | .blockEnd :: _ => some ([], s.advance)
    | _ => none

/-- Reads the value of a key in a block mapping. Without a colon it is blank. -/
def takeBlockValue : Nat → Source → Option (Node × Source)
  | 0, _ => none
  | fuel + 1, s =>
    match s.tokens with
    | .value :: rest =>
      if endsBlockValue rest then some (Node.blank, s.advance)
      else takeNode fuel .blockValue s.advance
    | _ => some (Node.blank, s)

/-- Reads the items of a sequence in brackets, up to and with its end. -/
def takeFlowItems : Nat → Bool → Source → Option (List Node × Source)
  | 0, _, _ => none
  | fuel + 1, first, s => do
    match s.tokens with
    | .flowSequenceEnd :: _ => some ([], s.advance)
    | tokens =>
      let s ← if first then some s else match tokens with
        | .flowEntry :: _ => some s.advance
        | _ => none
      match s.tokens with
      | .flowSequenceEnd :: _ => some ([], s.advance)
      | .key :: _ =>
        let (entry, s) ← takePair fuel s.advance
        let (items, s) ← takeFlowItems fuel false s
        some (.mapping none none [entry] :: items, s)
      | _ =>
        let (item, s) ← takeNode fuel .flow s
        let (items, s) ← takeFlowItems fuel false s
        some (item :: items, s)

/-- Reads a key and a value that are an item of a sequence in brackets. A token that leaves the key
blank is dropped. -/
def takePair : Nat → Source → Option ((Node × Node) × Source)
  | 0, _ => none
  | fuel + 1, s => do
    let (key, s) ← match s.tokens with
      | .value :: _ | .flowEntry :: _ | .flowSequenceEnd :: _ => some (Node.blank, s.advance)
      | _ => takeNode fuel .flow s
    match s.tokens with
    | .value :: .flowEntry :: _ | .value :: .flowSequenceEnd :: _ =>
      some ((key, Node.blank), s.advance)
    | .value :: _ =>
      let (value, s) ← takeNode fuel .flow s.advance
      some ((key, value), s)
    | _ => some ((key, Node.blank), s)

/-- Reads the entries of a mapping in brackets, up to and with its end. -/
def takeFlowEntries : Nat → Bool → Source → Option (List (Node × Node) × Source)
  | 0, _, _ => none
  | fuel + 1, first, s => do
    match s.tokens with
    | .flowMappingEnd :: _ => some ([], s.advance)
    | tokens =>
      let s ← if first then some s else match tokens with
        | .flowEntry :: _ => some s.advance
        | _ => none
      match s.tokens with
      | .flowMappingEnd :: _ => some ([], s.advance)
      | .key :: rest =>
        let s := s.advance
        let (key, s) ← match rest with
          | .value :: _ | .flowEntry :: _ | .flowMappingEnd :: _ => some (Node.blank, s)
          | _ => takeNode fuel .flow s
        let (value, s) ← takeFlowValue fuel s
        let (entries, s) ← takeFlowEntries fuel false s
        some ((key, value) :: entries, s)
      | _ =>
        let (key, s) ← takeNode fuel .flow s
        let (entries, s) ← takeFlowEntries fuel false s
        some ((key, Node.blank) :: entries, s)

/-- Reads the value of a key in a mapping in brackets. Without a colon it is blank. -/
def takeFlowValue : Nat → Source → Option (Node × Source)
  | 0, _ => none
  | fuel + 1, s =>
    match s.tokens with
    | .value :: .flowEntry :: _ | .value :: .flowMappingEnd :: _ => some (Node.blank, s.advance)
    | .value :: _ => takeNode fuel .flow s.advance
    | _ => some (Node.blank, s)

end

/-! ## Documents -/

/-- The directives in front of a document. -/
structure Directives where
  hasVersion : Bool := false
  handles : List (String × String) := []

/-- Reads directives. A document has at most one version, which has to be known, and each handle at
most once. -/
def takeDirectives? : Nat → Directives → List Token → Option (Directives × List Token)
  | fuel + 1, d, .version major minor :: rest =>
    if d.hasVersion || major != 1 || (minor != 1 && minor != 2) then none
    else takeDirectives? fuel { d with hasVersion := true } rest
  | fuel + 1, d, .tagHandle handle stem :: rest =>
    if d.handles.any fun entry => entry.1 == handle then none
    else takeDirectives? fuel { d with handles := (handle, stem) :: d.handles } rest
  | _, d, rest => some (d, rest)

/-- The handles that every document knows. -/
def standardHandles : List (String × String) :=
  [("!", "!"), ("!!", "tag:yaml.org,2002:")]

/-- The document that tokens are from its content on, with nothing behind it. -/
def takeDocument? (explicit : Bool) (handles : List (String × String)) (tokens : List Token) :
    Option Node := do
  let s : Source := ⟨tokens, [], handles ++ standardHandles⟩
  let isBlank := explicit && match tokens with
    | [] | .documentEnd :: _ | .documentStart :: _ | .version _ _ :: _ | .tagHandle _ _ :: _ => true
    | _ => false
  let (node, s) ← if isBlank then some (Node.blank, s)
    else takeNode (2 * tokens.length + 2) .block s
  if s.tokens.all fun t => t == .documentEnd then some node else none

/-- What a text is: nothing, or one document. -/
inductive Stream where
  | empty
  | document (root : Node)
  deriving Repr

/-- What tokens are. -/
def Stream.ofTokens? (tokens : List Token) : Option Stream := do
  match tokens with
  | [] => some .empty
  | _ =>
    let (directives, rest) ← takeDirectives? tokens.length {} tokens
    match rest with
    | .documentStart :: content => (takeDocument? true directives.handles content).map .document
    | _ =>
      if directives.hasVersion || !directives.handles.isEmpty then none
      else (takeDocument? false [] rest).map .document

/-- What a text is, if it is well-formed. -/
def Stream.ofText? (text : String) : Option Stream :=
  (tokens? text.toList).bind Stream.ofTokens?

end SchemaMigration.Yaml
