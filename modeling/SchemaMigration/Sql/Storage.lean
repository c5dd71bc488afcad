import SchemaMigration.Sql.Database
import SchemaMigration.Text.Fields

/-!
# Databases in files

A database as the bytes of a file: a mark that no text begins with, and then everything the database
holds as a list of texts, with the length of each list in front of it.

* `Database.encode` writes a database and `Database.decode?` reads it.
-/

namespace SchemaMigration.Sql

/-- A writer and a reader of values as texts. -/
structure Codec (α : Type) where
  write : α → List String
  read : StateT (List String) Option α

namespace Codec

/-- Takes the next text. -/
def next : StateT (List String) Option String := do
  match ← get with
  | s :: rest => set rest; return s
  | [] => failure

/-- Texts themselves. -/
def text : Codec String where
  write s := [s]
  read := next

/-- Integers by their numerals. -/
def int : Codec Int where
  write n := [Text.decimalInt n]
  read := do
    match Text.ofSignedDigits? 10 (← next).toList with
    | some n => return n
    | none => failure

/-- Natural numbers by their numerals. -/
def nat : Codec Nat where
  write n := [Text.decimal n]
  read := do
    match Text.ofDigits? 10 (← next).toList with
    | some n => return n
    | none => failure

/-- Truth values. -/
def bool : Codec Bool where
  write b := [if b then "1" else "0"]
  read := do return (← next) == "1"

/-- Reads a number of values. -/
def readMany {α : Type} (codec : Codec α) : Nat → StateT (List String) Option (List α)
  | 0 => return []
  | n + 1 => do
    let first ← codec.read
    return first :: (← readMany codec n)

/-- Lists behind their lengths. -/
def list {α : Type} (codec : Codec α) : Codec (List α) where
  write xs := Text.decimal xs.length :: xs.flatMap codec.write
  read := do codec.readMany (← nat.read)

/-- Widths of integers by their places in the list of all. -/
def width : Codec IntegerType where
  write t := nat.write (IntegerType.all.idxOf t)
  read := do
    match IntegerType.all[← nat.read]? with
    | some t => return t
    | none => failure

/-- Types. -/
def type : Codec SqlType where
  write
    | .unknown => ["unknown"]
    | .boolean => ["boolean"]
    | .integral t => "integral" :: width.write t
    | .decimal precision scale => "decimal" :: nat.write precision ++ nat.write scale
    | .real => ["real"]
    | .double => ["double"]
    | .varchar => ["varchar"]
    | .uuid => ["uuid"]
    | .date => ["date"]
  read := do
    match ← next with
    | "unknown" => return .unknown
    | "boolean" => return .boolean
    | "integral" => return .integral (← width.read)
    | "decimal" => return .decimal (← nat.read) (← nat.read)
    | "real" => return .real
    | "double" => return .double
    | "varchar" => return .varchar
    | "uuid" => return .uuid
    | "date" => return .date
    | _ => failure

/-- Values. -/
def datum : Codec Datum where
  write
    | .null => ["null"]
    | .bool b => "bool" :: bool.write b
    | .int n => "int" :: int.write n
    | .decimal unscaled scale => "decimal" :: int.write unscaled ++ nat.write scale
    | .double x => "double" :: nat.write x.bits.toNat
    | .text s => ["text", s]
    | .uuid id => "uuid" :: nat.write id.high.toNat ++ nat.write id.low.toNat
    | .date days => "date" :: int.write days
  read := do
    match ← next with
    | "null" => return .null
    | "bool" => return .bool (← bool.read)
    | "int" => return .int (← int.read)
    | "decimal" => return .decimal (← int.read) (← nat.read)
    | "double" => return .double ⟨UInt64.ofNat (← nat.read)⟩
    | "text" => return .text (← next)
    | "uuid" => return .uuid ⟨UInt64.ofNat (← nat.read), UInt64.ofNat (← nat.read)⟩
    | "date" => return .date (← int.read)
    | _ => failure

/-- Columns. -/
def column : Codec Column where
  write c := c.name :: type.write c.type ++ bool.write c.required
  read := do return ⟨← next, ← type.read, ← bool.read⟩

/-- Tables. -/
def table : Codec Table where
  write t :=
    t.name :: (list column).write t.columns ++ (list (list nat)).write t.keys
      ++ (list (list datum)).write t.rows
  read := do
    return ⟨← next, ← (list column).read, ← (list (list nat)).read, ← (list (list datum)).read⟩

/-- Schemas. -/
def schema : Codec Schema where
  write s := s.name :: (list table).write s.tables
  read := do return ⟨← next, ← (list table).read⟩

end Codec

namespace Database

/-- The byte in front of a database. No text begins with it. -/
def mark : UInt8 := 0xFF

/-- A database as bytes. -/
def encode (db : Database) : ByteArray :=
  ⟨#[mark]⟩ ++ (String.ofList (Text.joinFields ((Codec.list Codec.schema).write db.schemas))).toUTF8

/-- The database that bytes hold. -/
def decode? (bytes : ByteArray) : Option Database := do
  if bytes.toList.head? = some mark then
    let text ← String.fromUTF8? (bytes.extract 1 bytes.size)
    let fields ← Text.splitFields? text.toList
    match ((Codec.list Codec.schema).read.run fields : Option (List Schema × List String)) with
    | some (schemas, []) => some ⟨schemas⟩
    | _ => none
  else none

end Database

end SchemaMigration.Sql
