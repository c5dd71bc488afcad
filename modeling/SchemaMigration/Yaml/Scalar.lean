import SchemaMigration.Yaml.Cursor

/-!
# Scalars as they are written

The three ways to write a scalar: plain, in quotes, and as an indented block. Line breaks inside
plain and quoted scalars are folded: a single one is a space, each further one a line feed.

Each reader gives the text and the cursor behind the scalar, or nothing if it is malformed.
-/

namespace SchemaMigration.Yaml

/-- What stands between two words of a scalar. -/
structure Gap where
  /-- Spaces and tabs before any line break. -/
  spaces : List Char := []
  /-- The first line break. -/
  first : List Char := []
  /-- The line breaks after the first. -/
  more : List Char := []
  /-- Whether there is a line break. -/
  broken : Bool := false

/-- A gap with its line breaks folded. -/
def Gap.fold (gap : Gap) : List Char :=
  if gap.broken then
    if gap.first = ['\n'] then (if gap.more.isEmpty then [' '] else gap.more)
    else gap.first ++ gap.more
  else gap.spaces

/-- The gap at a cursor. On a line that a break starts, a tab may not stand in front of the given
column. -/
def takeGap (column : Nat) : Nat → Gap → Cursor → Option (Gap × Cursor)
  | 0, gap, c => some (gap, c)
  | fuel + 1, gap, c =>
    match c.rest with
    | [] => some (gap, c)
    | x :: _ =>
      if isSpace x then
        if gap.broken then
          if x == '\t' && c.column < column then none
          else takeGap column fuel gap (c.skip 1)
        else takeGap column fuel { gap with spaces := gap.spaces ++ [x] } (c.skip 1)
      else if isBreak x then
        let (text, next) := c.takeBreak
        if gap.broken then takeGap column fuel { gap with more := gap.more ++ text } next
        else takeGap column fuel { gap with spaces := [], first := text, broken := true } next
      else some (gap, c)

/-! ## Plain scalars -/

/-- The characters that separate items between brackets. -/
def isFlowIndicator (c : Char) : Bool :=
  c == ',' || c == '[' || c == ']' || c == '\x7b' || c == '\x7d'

/-- The plain word at the start of a text. Between brackets a colon may not touch an indicator. -/
def plainWord? (inFlow : Bool) : List Char → Option (List Char)
  | [] => some []
  | c :: rest =>
    if isGap c then some []
    else if inFlow && c == ':' && (match rest with
        | d :: _ => isFlowIndicator d || d == '?'
        | [] => false) then none
    else if c == ':' && startsGap rest then some []
    else if inFlow && isFlowIndicator c then some []
    else (plainWord? inFlow rest).map (c :: ·)

/-- A plain scalar that has been read. -/
structure Plain where
  text : List Char
  /-- Whether a line break follows it. -/
  broken : Bool
  cursor : Cursor

/-- Reads a plain scalar on after some text and a gap. Its lines are indented at least to a
column, except between brackets. -/
def takePlain (inFlow : Bool) (column : Nat) : Nat → List Char → Gap → Cursor → Option Plain
  | 0, _, _, _ => none
  | fuel + 1, text, gap, c =>
    if c.atDocumentMark || c.rest.head? == some '#' then some ⟨text, gap.broken, c⟩
    else
      match plainWord? inFlow c.rest with
      | none => none
      | some [] => some ⟨text, gap.broken, c⟩
      | some word =>
        let text := text ++ gap.fold ++ word
        let c := c.skip word.length
        match takeGap column (c.rest.length + 1) {} c with
        | none => none
        | some (gap, c) =>
          if !inFlow && c.column < column then some ⟨text, gap.broken, c⟩
          else takePlain inFlow column fuel text gap c

/-- The plain scalar at a cursor. -/
def plain? (inFlow : Bool) (column : Nat) (c : Cursor) : Option Plain :=
  takePlain inFlow column (c.rest.length + 1) [] {} c

/-! ## Scalars in quotes -/

/-- The number that a fixed count of hexadecimal digits denotes. -/
def hexNumber? (count : Nat) (s : List Char) : Option Nat :=
  if (s.take count).length = count then Text.ofDigits? 16 (s.take count) else none

/-- The character with a code, unless the code is none. -/
def charOfCode? (n : Nat) : Option Char :=
  if n.isValidChar then some (Char.ofNat n) else none

/-- The character that an escape stands for, by the text behind the backslash, and how many
characters the escape takes there. -/
def escape? : List Char → Option (Char × Nat)
  | [] => none
  | c :: rest =>
    let simple (code : Nat) : Option (Char × Nat) := some (Char.ofNat code, 1)
    let hex (count : Nat) : Option (Char × Nat) :=
      ((hexNumber? count rest).bind charOfCode?).map fun d => (d, count + 1)
    match c with
    | '0' => simple 0
    | 'a' => simple 7
    | 'b' => simple 8
    | 't' | '\t' => simple 9
    | 'n' => simple 10
    | 'v' => simple 11
    | 'f' => simple 12
    | 'r' => simple 13
    | 'e' => simple 27
    | ' ' | '\x22' | '/' | '\\' => some (c, 1)
    | 'N' => simple 0x85
    | '_' => simple 0xA0
    | 'L' => simple 0x2028
    | 'P' => simple 0x2029
    | 'x' => hex 2
    | 'u' => hex 4
    | 'U' => hex 8
    | _ => none

/-- A run of a quoted scalar without a gap. -/
structure QuotedRun where
  text : List Char
  cursor : Cursor
  /-- Whether the run ends in an escaped line break. -/
  joined : Bool

/-- Reads a quoted scalar up to a gap, to the closing quote or to the end of the text. -/
def takeQuotedRun (single : Bool) : Nat → List Char → Cursor → Option QuotedRun
  | 0, text, c => some ⟨text, c, false⟩
  | fuel + 1, text, c =>
    match c.rest with
    | [] => some ⟨text, c, false⟩
    | x :: rest =>
      if isGap x then some ⟨text, c, false⟩
      else if single then
        match x, rest with
        | '\x27', '\x27' :: _ => takeQuotedRun single fuel (text ++ ['\x27']) (c.skip 2)
        | '\x27', _ => some ⟨text, c, false⟩
        | _, _ => takeQuotedRun single fuel (text ++ [x]) (c.skip 1)
      else if x == '\x22' then some ⟨text, c, false⟩
      else if x == '\\' then
        match rest with
        | b :: _ =>
          if isBreak b then some ⟨text, (c.skip 1).skipBreak, true⟩
          else match escape? rest with
            | some (d, count) => takeQuotedRun single fuel (text ++ [d]) (c.skip (count + 1))
            | none => none
        | [] => none
      else takeQuotedRun single fuel (text ++ [x]) (c.skip 1)

/-- Reads a quoted scalar on after some text, up to and with the closing quote. -/
def takeQuoted (single : Bool) : Nat → List Char → Cursor → Option (List Char × Cursor)
  | 0, _, _ => none
  | fuel + 1, text, c =>
    if c.atDocumentMark || c.rest.isEmpty then none
    else
      match takeQuotedRun single (c.rest.length + 1) text c with
      | none => none
      | some run =>
        let c := run.cursor
        if c.rest.head? == some (if single then '\x27' else '\x22') then some (run.text, c.skip 1)
        else
          match takeGap 0 (c.rest.length + 1) { broken := run.joined } c with
          | none => none
          | some (gap, c) => takeQuoted single fuel (run.text ++ gap.fold) c

/-- The quoted scalar whose opening quote is at a cursor. -/
def quoted? (single : Bool) (c : Cursor) : Option (List Char × Cursor) :=
  takeQuoted single (c.rest.length + 2) [] (c.skip 1)

/-! ## Blocks -/

/-- What becomes of the line breaks at the end of a block. -/
inductive Chomping where
  /-- None is kept. -/
  | strip
  /-- The first one is kept. -/
  | clip
  /-- All are kept. -/
  | keep
  deriving DecidableEq, Repr

/-- The header of a block. -/
structure BlockHeader where
  chomping : Chomping
  /-- How far the block is indented against its surroundings, if the header says so. -/
  indent : Option Nat
  cursor : Cursor

/-- The chomping that an indicator stands for. -/
def chomping? : Char → Option Chomping
  | '+' => some .keep
  | '-' => some .strip
  | _ => none

/-- The indentation that a digit stands for, if it stands for one; zero is refused. -/
def indentDigit? (s : List Char) : Option (Option Nat) :=
  match s with
  | d :: _ =>
    if Text.isDigit d then
      if d == '0' then none else some (Text.ofDigits? 10 [d])
    else some none
  | [] => some none

/-- The header behind the indicator of a block. -/
def blockHeader? (c : Cursor) : Option BlockHeader := do
  match c.rest.head?.bind chomping? with
  | some chomping =>
    let c := c.skip 1
    let indent ← indentDigit? c.rest
    let c := if indent.isSome then c.skip 1 else c
    some ⟨chomping, indent, ← c.finishLine?⟩
  | none =>
    let indent ← indentDigit? c.rest
    let c := if indent.isSome then c.skip 1 else c
    match if indent.isSome then c.rest.head?.bind chomping? else none with
    | some chomping => some ⟨chomping, indent, ← (c.skip 1).finishLine?⟩
    | none => some ⟨.clip, indent, ← c.finishLine?⟩

/-- Empty lines of a block: their line breaks, the greatest column seen, and the cursor at the first
character that is not indentation. -/
structure BlockBreaks where
  breaks : List Char
  column : Nat
  cursor : Cursor

/-- Reads empty lines of a block that is indented to a column, or to a column yet to be found. -/
def takeBlockBreaks (indent : Option Nat) :
    Nat → List Char → Nat → Cursor → Option BlockBreaks
  | 0, breaks, widest, c => some ⟨breaks, widest, c⟩
  | fuel + 1, breaks, widest, c =>
    let spaces := (c.takeWhile (· == ' ')).length
    let c := c.skip (match indent with
      | some n => min spaces (n - c.column)
      | none => spaces)
    let widest := max widest c.column
    let inside := match indent with
      | some n => n ≤ c.column
      | none => false
    match c.rest with
    | x :: _ =>
      if !inside && x == '\t' then none
      else if isBreak x then
        let (text, next) := c.takeBreak
        takeBlockBreaks indent fuel (breaks ++ text) widest next
      else some ⟨breaks, widest, c⟩
    | [] => some ⟨breaks, widest, c⟩

/-- A block that is being read. -/
structure Block where
  text : List Char := []
  /-- The line break behind the last line that is not empty. -/
  first : List Char := []
  /-- The line breaks of empty lines behind it. -/
  more : List Char
  /-- Whether the last line starts with a space or a tab. -/
  spaced : Bool := false

/-- The text of a block with the breaks in front of its next line joined to it. Two lines that
start with neither space nor tab are folded into one, unless the block is literal. -/
def Block.joined (literal spaced : Bool) (block : Block) : List Char :=
  if !literal && block.first.head? == some '\n' && !block.spaced && !spaced then
    block.text ++ (if block.more.isEmpty then [' '] else block.more)
  else block.text ++ block.first ++ block.more

/-- Reads the lines of a block that is indented to a column. -/
def takeBlockLines (literal : Bool) (indent : Nat) : Nat → Block → Cursor → Option (Block × Cursor)
  | 0, _, _ => none
  | fuel + 1, block, c =>
    if c.column == indent && !c.rest.isEmpty then
      let spaced := (c.rest.head?.map isSpace).getD false
      let text := block.joined literal spaced
      let line := c.takeWhile fun x => !isBreak x
      let (first, next) := (c.skip line.length).takeBreak
      match takeBlockBreaks (some indent) (next.rest.length + 1) [] 0 next with
      | none => none
      | some breaks =>
        takeBlockLines literal indent fuel ⟨text ++ line, first, breaks.breaks, spaced⟩ breaks.cursor
    else some (block, c)

/-- The text of a block with what its chomping leaves of the line breaks at its end. -/
def Block.finish (chomping : Chomping) (block : Block) : List Char :=
  match chomping with
  | .strip => block.text
  | .clip => block.text ++ block.first
  | .keep => block.text ++ block.first ++ block.more

/-- The block whose indicator is at a cursor, inside a collection that is indented to a column, or
inside none. -/
def block? (literal : Bool) (parent : Option Nat) (c : Cursor) : Option (List Char × Cursor) := do
  let header ← blockHeader? (c.skip 1)
  let least := match parent with
    | some n => n
    | none => 0
  let c := header.cursor
  let indent := header.indent.map (least + ·)
  let breaks ← takeBlockBreaks indent (c.rest.length + 1) [] 0 c
  let column := match indent with
    | some n => n
    | none => max breaks.column (max 1 (match parent with | some n => n + 1 | none => 0))
  let c := breaks.cursor
  let (block, c) ← takeBlockLines literal column (c.rest.length + 1) { more := breaks.breaks } c
  some (block.finish header.chomping, c)

end SchemaMigration.Yaml
