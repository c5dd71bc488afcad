import SchemaMigration.Yaml.Cursor
import SchemaMigration.Yaml.Token

/-!
# Directives, anchors and tags

The readers of what may stand in front of a document or of a node. Each gives a token and the cursor
behind it, or nothing if the text is malformed.
-/

namespace SchemaMigration.Yaml

/-- The name at a cursor, and the cursor behind it. -/
def takeName (c : Cursor) : String × Cursor :=
  let name := c.takeWhile isWordChar
  (String.ofList name, c.skip name.length)

/-! ## Anchors -/

/-- Whether an anchor may end in front of a text. -/
def endsAnchor (rest : List Char) : Bool :=
  startsGap rest || match rest with
    | c :: _ => c == '?' || c == ':' || c == ',' || c == ']' || c == '\x7d' || c == '%' || c == '@'
        || c == '\x60'
    | [] => true

/-- The name behind the indicator of an anchor or an alias at a cursor. -/
def anchorName? (c : Cursor) : Option (String × Cursor) :=
  let (name, c) := takeName (c.skip 1)
  if name = "" || !endsAnchor c.rest then none else some (name, c)

/-! ## Tags -/

/-- Whether a character may stand in a tag. Brackets and commas may only do so between angle
brackets. -/
def isTagChar (verbatim : Bool) (c : Char) : Bool :=
  isWordChar c || c == ';' || c == '/' || c == '?' || c == ':' || c == '@' || c == '&' || c == '='
    || c == '+' || c == '$' || c == '.' || c == '%' || c == '!' || c == '~' || c == '*'
    || c == '\x27' || c == '(' || c == ')' || (verbatim && (c == ',' || c == '[' || c == ']'))

/-- How many bytes the UTF-8 form of a character has, by its first byte. -/
def byteCount? (first : Nat) : Option Nat :=
  if first < 0x80 then some 1
  else if first / 32 = 6 then some 2
  else if first / 16 = 14 then some 3
  else if first / 8 = 30 then some 4
  else none

/-- The bytes written as percent signs with two digits at the start of a text, `n` of them. -/
def percentBytes? : Nat → List Char → Option (List Nat)
  | 0, _ => some []
  | n + 1, '%' :: a :: b :: rest => do
    let byte ← Text.ofDigits? 16 [a, b]
    let bytes ← percentBytes? n rest
    some (byte :: bytes)
  | _ + 1, _ => none

/-- The character that percent signs at the start of a text write, and how many of them. -/
def percentChar? (s : List Char) : Option (Char × Nat) := do
  let first ← (← percentBytes? 1 s).head?
  let count ← byteCount? first
  let bytes ← percentBytes? count s
  if (bytes.drop 1).all fun b => b / 64 == 2 then
    let top := if count = 1 then first else first % twoTo (7 - count)
    some (Char.ofNat ((bytes.drop 1).foldl (fun n b => n * 64 + b % 64) top), count)
  else none

/-- Reads the characters of a tag on after some text. -/
def takeTagText (verbatim : Bool) : Nat → List Char → Cursor → Option (String × Cursor)
  | 0, text, c => some (String.ofList text, c)
  | fuel + 1, text, c =>
    match c.rest with
    | x :: _ =>
      if x == '%' then
        match percentChar? c.rest with
        | some (d, count) => takeTagText verbatim fuel (text ++ [d]) (c.skip (3 * count))
        | none => none
      else if isTagChar verbatim x then takeTagText verbatim fuel (text ++ [x]) (c.skip 1)
      else some (String.ofList text, c)
    | [] => some (String.ofList text, c)

/-- The characters of a tag at a cursor, behind some that belong to it already. -/
def tagText? (verbatim : Bool) (head : List Char) (c : Cursor) : Option (String × Cursor) :=
  takeTagText verbatim (c.rest.length + 1) head c

/-- The handle at a cursor: an exclamation mark, a name, and perhaps a second exclamation mark. -/
def tagHandle? (c : Cursor) : Option (String × Cursor) :=
  match c.rest with
  | '!' :: _ =>
    let (name, next) := takeName (c.skip 1)
    match next.rest with
    | '!' :: _ => some ("!" ++ name ++ "!", next.skip 1)
    | _ => some ("!" ++ name, next)
  | _ => none

/-- Whether a tag may end in front of a text. -/
def endsTag (inFlow : Bool) (rest : List Char) : Bool :=
  startsGap rest || (inFlow && rest.head? == some ',')

/-- The tag at a cursor. -/
def tag? (inFlow : Bool) (c : Cursor) : Option (Token × Cursor) := do
  let (token, c) ← match c.rest with
    | '!' :: '<' :: _ => do
      let (suffix, next) ← tagText? true [] (c.skip 2)
      if suffix = "" || next.rest.head? != some '>' then none
      else some (Token.tag "" suffix, next.skip 1)
    | _ => do
      let (handle, next) ← tagHandle? c
      let cs := handle.toList
      if 2 ≤ cs.length && cs.getLast? == some '!' then
        let (suffix, next) ← tagText? false [] next
        if suffix = "" then none else some (Token.tag handle suffix, next)
      else
        let (suffix, next) ← tagText? false (cs.drop 1) next
        some (if suffix = "" then Token.tag "" "!" else Token.tag "!" suffix, next)
  if endsTag inFlow c.rest then some (token, c) else none

/-! ## Directives -/

/-- The greatest number of digits of a version number. -/
def maxVersionDigits : Nat := 9

/-- A version number at a cursor. -/
def versionNumber? (c : Cursor) : Option (Nat × Cursor) := do
  let digits := c.takeWhile Text.isDigit
  let n ← Text.ofDigits? 10 digits
  if maxVersionDigits < digits.length then none else some (n, c.skip digits.length)

/-- The value of a version directive at a cursor. -/
def versionValue? (c : Cursor) : Option (Token × Cursor) := do
  let (major, c) ← versionNumber? (c.skipWhile isSpace)
  if c.rest.head? != some '.' then none
  let (minor, c) ← versionNumber? (c.skip 1)
  some (.version major minor, c)

/-- The value of a tag directive at a cursor. -/
def tagValue? (c : Cursor) : Option (Token × Cursor) := do
  let (handle, c) ← tagHandle? (c.skipWhile isSpace)
  if handle != "!" && handle.toList.getLast? != some '!' then none
  if !(c.rest.head?.map isSpace).getD false then none
  let (stem, c) ← tagText? true [] (c.skipWhile isSpace)
  if stem = "" || !startsGap c.rest then none
  some (.tagHandle handle stem, c)

/-- The directive at a cursor, up to the end of its line. -/
def directive? (c : Cursor) : Option (Token × Cursor) := do
  let (name, c) := takeName (c.skip 1)
  if !startsGap c.rest then none
  let (token, c) ← match name with
    | "YAML" => versionValue? c
    | "TAG" => tagValue? c
    | _ => none
  some (token, ← c.finishLine?)

end SchemaMigration.Yaml
