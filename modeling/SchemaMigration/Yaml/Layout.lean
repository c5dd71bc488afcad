import SchemaMigration.Yaml.Property
import SchemaMigration.Yaml.Scalar

/-!
# The layout of a YAML text

What the indentation of a text and its colons mean. A block collection begins where the text is
indented further and ends where it no longer is. Whether a node is a key is known only when its
colon is met; the token for the key is then put in front of it.

* `Layout` is the state between two tokens.
* `tokens?` gives the tokens of a whole text, or nothing if its layout is malformed.
-/

namespace SchemaMigration.Yaml

/-- A place where a key may have started. -/
structure PossibleKey where
  /-- Whether nothing but a key may stand there. -/
  required : Bool
  /-- How many tokens are in front of it. -/
  position : Nat
  cursor : Cursor

/-- The state between two tokens. -/
structure Layout where
  cursor : Cursor
  /-- The possible key of each open bracket, the innermost first, and of the text outside. -/
  keys : List (Option PossibleKey) := [none]
  /-- The columns of the open block collections, the innermost first. -/
  indents : List Nat := []
  /-- Whether a key may start here. -/
  keyAllowed : Bool := true
  /-- The tokens so far, the last one first. -/
  tokens : List Token := []
  count : Nat := 0

namespace Layout

/-- The layout at the start of a text. -/
def start (text : List Char) : Layout := { cursor := Cursor.start text }

/-- Whether the layout is between brackets. -/
def inFlow (l : Layout) : Bool :=
  match l.keys with
  | _ :: _ :: _ => true
  | _ => false

/-- The layout with one more token. -/
def push (l : Layout) (token : Token) : Layout :=
  { l with tokens := token :: l.tokens, count := l.count + 1 }

/-- The layout with a token put behind the first `position` ones. -/
def insert (l : Layout) (position : Nat) (token : Token) : Layout :=
  let (after, before) := l.tokens.splitAt (l.count - position)
  { l with tokens := after ++ token :: before, count := l.count + 1 }

/-- The layout with another cursor. -/
def moveTo (l : Layout) (cursor : Cursor) : Layout :=
  { l with cursor := cursor }

/-- Ends the block collections that are indented further than a column. -/
def closeTo (column : Nat) : List Nat → Layout → Layout
  | [], l => { l with indents := [] }
  | n :: rest, l => if column < n then closeTo column rest (l.push .blockEnd)
    else { l with indents := n :: rest }

/-- Ends the block collections that are indented further than a column, outside of brackets. -/
def unindent (l : Layout) (column : Nat) : Layout :=
  if l.inFlow then l else closeTo column l.indents l

/-- Ends all block collections, outside of brackets. -/
def unindentAll (l : Layout) : Layout :=
  if l.inFlow then l
  else { l.indents.foldl (fun l _ => l.push .blockEnd) l with indents := [] }

/-- Whether a column is further in than the innermost block collection. -/
def isDeeper (l : Layout) (column : Nat) : Bool :=
  match l.indents with
  | [] => true
  | n :: _ => n < column

/-- Starts a block collection at a column, if that is further in. -/
def indentTo (l : Layout) (column position : Nat) (token : Token) : Layout :=
  if l.inFlow || !l.isDeeper column then l
  else { l.insert position token with indents := column :: l.indents }

/-- Gives up the possible key; that is an error if a key has to stand there. -/
def dropKey? (l : Layout) : Option Layout :=
  match l.keys with
  | some key :: rest => if key.required then none else some { l with keys := none :: rest }
  | _ => some l

/-- Notes that a key may start here. -/
def noteKey? (l : Layout) : Option Layout :=
  if l.keyAllowed then do
    let l ← l.dropKey?
    let required := !l.inFlow && l.indents.head? == some l.cursor.column
    some { l with keys := some ⟨required, l.count, l.cursor⟩ :: l.keys.drop 1 }
  else some l

/-- The greatest length of a key. -/
def maxKeyLength : Nat := 1024

/-- Whether a key that may have started somewhere can no longer be one: keys stay on one line. -/
def isStale (cursor : Cursor) (key : PossibleKey) : Bool :=
  key.cursor.line < cursor.line || key.cursor.index + maxKeyLength < cursor.index

/-- Gives up the keys that can no longer be keys. -/
def dropStale? (cursor : Cursor) : List (Option PossibleKey) → Option (List (Option PossibleKey))
  | [] => some []
  | some key :: rest => do
    let rest ← dropStale? cursor rest
    if isStale cursor key then (if key.required then none else some (none :: rest))
    else some (some key :: rest)
  | none :: rest => (dropStale? cursor rest).map (none :: ·)

/-- Skips blanks, comments and line breaks. A tab may not stand where a key may start. -/
def skipBlank : Nat → Layout → Layout
  | 0, l => l
  | fuel + 1, l =>
    let tabs := l.inFlow || !l.keyAllowed
    let c := (l.cursor.skipWhile fun x => x == ' ' || (tabs && x == '\t')).skipComment
    match c.rest with
    | x :: _ =>
      if isBreak x then
        skipBlank fuel { l with cursor := c.skipBreak, keyAllowed := l.keyAllowed || !l.inFlow }
      else l.moveTo c
    | [] => l.moveTo c

/-- A token of `n` characters. -/
def single (l : Layout) (n : Nat) (token : Token) : Layout :=
  (l.push token).moveTo (l.cursor.skip n)

/-- A token that starts or ends a document or stands in front of one. -/
def boundary? (l : Layout) (token : Token) (cursor : Cursor) : Option Layout := do
  let l ← l.unindentAll.dropKey?
  some (({ l with keyAllowed := false }.push token).moveTo cursor)

/-- An opening bracket. -/
def openFlow? (l : Layout) (token : Token) : Option Layout := do
  let l ← l.noteKey?
  some ({ l with keys := none :: l.keys, keyAllowed := true }.single 1 token)

/-- A closing bracket. -/
def closeFlow? (l : Layout) (token : Token) : Option Layout := do
  let l ← l.dropKey?
  let keys := if l.inFlow then l.keys.drop 1 else l.keys
  some ({ l with keys := keys, keyAllowed := false }.single 1 token)

/-- A comma between brackets. -/
def flowEntry? (l : Layout) : Option Layout := do
  let l ← l.dropKey?
  some ({ l with keyAllowed := true }.single 1 .flowEntry)

/-- A place where a block collection may start: there, a key might start as well. -/
def startBlock? (l : Layout) (token : Token) : Option Layout :=
  if l.inFlow then some l
  else if l.keyAllowed then some (l.indentTo l.cursor.column l.count token)
  else none

/-- The indicator of a block sequence's item. -/
def blockEntry? (l : Layout) : Option Layout := do
  let l ← l.startBlock? .blockSequence
  let l ← l.dropKey?
  some ({ l with keyAllowed := true }.single 1 .blockEntry)

/-- The indicator of a key. -/
def explicitKey? (l : Layout) : Option Layout := do
  let l ← l.startBlock? .blockMapping
  let l ← l.dropKey?
  some ({ l with keyAllowed := !l.inFlow }.single 1 .key)

/-- The colon behind a key. -/
def value? (l : Layout) : Option Layout :=
  match l.keys with
  | some key :: rest =>
    let l := l.insert key.position .key
    let l := l.indentTo key.cursor.column key.position .blockMapping
    some ({ l with keys := none :: rest, keyAllowed := false }.single 1 .value)
  | _ => do
    let l ← l.startBlock? .blockMapping
    some ({ l with keyAllowed := !l.inFlow }.single 1 .value)

/-- A token that a key may start with. -/
def property? (l : Layout) (read : Cursor → Option (Token × Cursor)) : Option Layout := do
  let l ← l.noteKey?
  let (token, c) ← read l.cursor
  some (({ l with keyAllowed := false }.push token).moveTo c)

/-- The column that a plain scalar's lines have to reach, and blocks have to pass. -/
def contentColumn (l : Layout) : Nat :=
  match l.indents with
  | [] => 0
  | n :: _ => n + 1

/-- A plain scalar. Behind a line break a key may start again. -/
def plainScalar? (l : Layout) : Option Layout := do
  let l ← l.noteKey?
  let scalar ← plain? l.inFlow l.contentColumn l.cursor
  some (({ l with keyAllowed := scalar.broken }.push
    (.scalar true false (String.ofList scalar.text))).moveTo scalar.cursor)

/-- A block. -/
def blockScalar? (l : Layout) (literal : Bool) : Option Layout := do
  let l ← l.dropKey?
  let (text, c) ← block? literal l.indents.head? l.cursor
  some (({ l with keyAllowed := true }.push
    (.scalar false literal (String.ofList text))).moveTo c)

/-- Whether a character may not start a plain scalar by itself. -/
def isIndicator (c : Char) : Bool :=
  isFlowIndicator c || c == '-' || c == '?' || c == ':' || c == '#' || c == '&' || c == '*'
    || c == '!' || c == '|' || c == '>' || c == '\x27' || c == '\x22' || c == '%' || c == '@'
    || c == '\x60'

/-- Whether a plain scalar may start with a character in front of a text. -/
def startsPlain (inFlow : Bool) (c : Char) (rest : List Char) : Bool :=
  !(isGap c || isIndicator c)
    || (c == '-' && !(rest.head?.map isSpace).getD false)
    || (!inFlow && (c == '?' || c == ':') && !startsGap rest)

/-- The next token, which starts with a character in front of a text. -/
def token? (l : Layout) (c : Char) (rest : List Char) : Option Layout :=
  let flow := l.inFlow
  let mark := flow || startsGap rest
  if l.cursor.column == 0 && c == '%' then do
    let (token, next) ← directive? l.cursor
    l.boundary? token next
  else if l.cursor.atMarker '-' then l.boundary? .documentStart (l.cursor.skip 3)
  else if l.cursor.atMarker '.' then l.boundary? .documentEnd (l.cursor.skip 3)
  else if c == '[' then l.openFlow? .flowSequence
  else if c == '\x7b' then l.openFlow? .flowMapping
  else if c == ']' then l.closeFlow? .flowSequenceEnd
  else if c == '\x7d' then l.closeFlow? .flowMappingEnd
  else if c == ',' then l.flowEntry?
  else if c == '-' && startsGap rest then l.blockEntry?
  else if c == '?' && mark then l.explicitKey?
  else if c == ':' && mark then l.value?
  else if c == '*' then l.property? fun at_ => (anchorName? at_).map fun (n, e) => (.aliasTo n, e)
  else if c == '&' then l.property? fun at_ => (anchorName? at_).map fun (n, e) => (.anchor n, e)
  else if c == '!' then l.property? (tag? flow)
  else if c == '|' && !flow then l.blockScalar? true
  else if c == '>' && !flow then l.blockScalar? false
  else if c == '\x27' || c == '\x22' then
    l.property? fun at_ => (quoted? (c == '\x27') at_).map fun (text, e) =>
      (.scalar false false (String.ofList text), e)
  else if startsPlain flow c rest then l.plainScalar?
  else none

/-- Reads the next token. Whether that is the last one comes with it. -/
def next? (l : Layout) : Option (Bool × Layout) := do
  let l := l.skipBlank (l.cursor.rest.length + 1)
  let keys ← dropStale? l.cursor l.keys
  let l := { l with keys := keys }.unindent l.cursor.column
  match l.cursor.rest with
  | [] => do
    let l ← l.unindentAll.dropKey?
    some (true, l)
  | c :: rest => (l.token? c rest).map fun l => (false, l)

/-- Reads all tokens. -/
def run? : Nat → Layout → Option (List Token)
  | 0, _ => none
  | fuel + 1, l =>
    match l.next? with
    | none => none
    | some (true, l) => some l.tokens.reverse
    | some (false, l) => run? fuel l

end Layout

/-- The cursor behind the mark that a text may start with. -/
def skipMark (c : Cursor) : Cursor :=
  if c.rest.head? == some byteOrderMark then c.skip 1 else c

/-- The tokens of a text, if every character may stand in it and its layout is well-formed. -/
def tokens? (text : List Char) : Option (List Token) :=
  if text.all isAllowed then
    Layout.run? (text.length + 2) { cursor := skipMark (Cursor.start text) }
  else none

end SchemaMigration.Yaml
