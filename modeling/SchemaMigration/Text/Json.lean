import SchemaMigration.Binary64
import SchemaMigration.Text.Quoted

/-!
# JSON values and their indented text

* `Json` is a JSON value; the members of an object keep their order.
* `Json.pretty` writes a value over several lines with two spaces of indentation.
-/

namespace SchemaMigration.Text

/-- A JSON value. -/
inductive Json where
  | null
  | bool (value : Bool)
  | int (value : Int)
  | float (value : Binary64)
  | text (value : String)
  | list (items : List Json)
  | object (members : List (String × Json))
  deriving Inhabited

namespace Json

/-- The escape of one character of a string. Only quotes, backslashes and controls have one. -/
def escape (c : Char) : List Char :=
  if c = '\x22' then ['\\', '\x22']
  else if c = '\\' then ['\\', '\\']
  else if c = '\n' then ['\\', 'n']
  else if c = '\r' then ['\\', 'r']
  else if c = '\t' then ['\\', 't']
  else if c.toNat = 8 then ['\\', 'b']
  else if c.toNat = 12 then ['\\', 'f']
  else if c.toNat < 32 then '\\' :: 'u' :: '0' :: '0' :: hexByte (UInt8.ofNat c.toNat)
  else [c]

/-- A string with its quotes and escapes. -/
def quote (s : String) : String :=
  String.ofList ('\x22' :: (s.toList.flatMap escape ++ ['\x22']))

/-- The line break and indentation in front of an item at a nesting depth. -/
def newline (depth : Nat) : String :=
  String.ofList ('\n' :: List.replicate (2 * depth) ' ')

mutual

/-- The indented text of a value that stands at a nesting depth. -/
def write (depth : Nat) : Json → String
  | null => "null"
  | bool true => "true"
  | bool false => "false"
  | int n => decimalInt n
  | float x => x.toText Binary64.cellLayout
  | text s => quote s
  | list [] => "[]"
  | list (item :: items) =>
    "[" ++ newline (depth + 1) ++ write (depth + 1) item ++ writeItems (depth + 1) items
      ++ newline depth ++ "]"
  | object [] => "\x7b\x7d"
  | object ((key, value) :: members) =>
    "\x7b" ++ newline (depth + 1) ++ quote key ++ ": " ++ write (depth + 1) value
      ++ writeMembers (depth + 1) members ++ newline depth ++ "\x7d"

/-- The items after the first, each after a comma on a line of its own. -/
def writeItems (depth : Nat) : List Json → String
  | [] => ""
  | item :: items => "," ++ newline depth ++ write depth item ++ writeItems depth items

/-- The members after the first, each after a comma on a line of its own. -/
def writeMembers (depth : Nat) : List (String × Json) → String
  | [] => ""
  | (key, value) :: members =>
    "," ++ newline depth ++ quote key ++ ": " ++ write depth value ++ writeMembers depth members

end

/-- The indented text of a value. -/
def pretty (value : Json) : String :=
  value.write 0

/-- What kind of value this is, as messages about an unexpected one say. -/
def describe : Json → String
  | null => "null"
  | bool b => if b then "boolean \x60true\x60" else "boolean \x60false\x60"
  | int n => "integer \x60" ++ decimalInt n ++ "\x60"
  | float x => "floating point \x60" ++ x.toText Binary64.cellLayout ++ "\x60"
  | text s => "string " ++ quoted s
  | list _ => "sequence"
  | object _ => "map"

end Json

end SchemaMigration.Text
