import SchemaMigration.Statement

/-!
# Types and data of the embedded database

* `SqlType` is the type of a column or of an expression.
* `Datum` is one value. It holds what its type needs and no more, so an integer does not know its
  width and a decimal number knows its scale only.
* `Datum.toCell` is how a value leaves the database.
-/

namespace SchemaMigration.Sql

/-- The widths of integers. -/
inductive IntegerType where
  | tinyint
  | smallint
  | integer
  | bigint
  | hugeint
  | utinyint
  | usmallint
  | uinteger
  | ubigint
  deriving DecidableEq, Repr

namespace IntegerType

/-- The least integer of the width. -/
def low : IntegerType → Int
  | tinyint => -twoTo 7
  | smallint => -twoTo 15
  | integer => -twoTo 31
  | bigint => -twoTo 63
  | hugeint => -twoTo 127
  | utinyint | usmallint | uinteger | ubigint => 0

/-- The greatest integer of the width. -/
def high : IntegerType → Int
  | tinyint => twoTo 7 - 1
  | smallint => twoTo 15 - 1
  | integer => twoTo 31 - 1
  | bigint => twoTo 63 - 1
  | hugeint => twoTo 127 - 1
  | utinyint => twoTo 8 - 1
  | usmallint => twoTo 16 - 1
  | uinteger => twoTo 32 - 1
  | ubigint => twoTo 64 - 1

/-- Whether an integer has the width. -/
def holds (t : IntegerType) (n : Int) : Bool :=
  t.low ≤ n && n ≤ t.high

/-- The widths in the order in which a common one is looked for. -/
def all : List IntegerType :=
  [tinyint, utinyint, smallint, usmallint, integer, uinteger, bigint, ubigint, hugeint]

/-- The first width that holds what both hold. -/
def join (a b : IntegerType) : IntegerType :=
  (all.find? fun t => t.low ≤ min a.low b.low && max a.high b.high ≤ t.high).getD hugeint

/-- The width of an integer literal. -/
def ofLiteral (n : Int) : Option IntegerType :=
  [integer, bigint, hugeint].find? fun t => t.holds n

end IntegerType

/-- The types of values. -/
inductive SqlType where
  /-- The type of a value that is not there and of which nothing else is known. -/
  | unknown
  | boolean
  | integral (width : IntegerType)
  /-- Numbers of at most `precision` digits, `scale` of them behind the point. -/
  | decimal (precision scale : Nat)
  | real
  | double
  | varchar
  | uuid
  | date
  deriving DecidableEq, Repr

namespace SqlType

/-- The greatest number of digits of a decimal number. -/
def maxPrecision : Nat := 38

/-- Whether the values of the type are numbers. -/
def isNumeric : SqlType → Bool
  | integral _ | decimal _ _ | real | double => true
  | unknown | boolean | varchar | uuid | date => false

end SqlType

/-- The values of the database. -/
inductive Datum where
  | null
  | bool (value : Bool)
  | int (value : Int)
  /-- The number `unscaled * 10 ^ -scale`. -/
  | decimal (unscaled : Int) (scale : Nat)
  | double (value : Binary64)
  | text (value : String)
  | uuid (value : Uuid)
  /-- The number of days since the first day of 1970. -/
  | date (days : Int)
  deriving DecidableEq, Repr

/-- A row of a table or of an answer. -/
abbrev Record := List Datum

/-- A quotient rounded to the nearest integer, a half away from zero. -/
def roundAway (num : Int) (den : Nat) : Int :=
  let q := (2 * num.natAbs + den) / (2 * den)
  if num < 0 then -(q : Int) else q

/-- The quotient of an integer and a power of ten as a number of double precision. -/
def scaledDouble (unscaled : Int) (scale : Nat) : Binary64 :=
  Binary64.ofDecimal (unscaled < 0) unscaled.natAbs (-(scale : Int))

/-- An integer as a cell if it has sixty-four bits, and else something in its stead. -/
def wordOr (n : Int) (other : Cell) : Cell :=
  if IntegerType.bigint.holds n then .int n else other

namespace Datum

/-- How a value leaves the database. Whatever reads as an integer is one: a text of digits, and a
number with a fraction too, which loses it. -/
def toCell : Datum → Cell
  | null => .null
  | bool b => .bool b
  | int n => wordOr n (.float (.ofInt n))
  | decimal unscaled scale =>
    wordOr (roundAway unscaled (tenTo scale)) (.float (scaledDouble unscaled scale))
  | double x =>
    match x.truncate? with
    | some n => wordOr n (.float x)
    | none => .float x
  | text s =>
    match Text.ofSignedDigits? 10 s.toList with
    | some n => wordOr n (.text s)
    | none => .text s
  | uuid id => .text id.text
  | date days => .int days

/-- A bound value as a value of the database. An identifier is bound as its text. -/
def ofValue : Value → Datum
  | .int n | .bigint n => int n
  | .text s => text s
  | .bool b => bool b
  | .uuid id => text id.text

end Datum

/-- The type of a bound value. -/
def SqlType.ofValue : Value → SqlType
  | .int _ => .integral .integer
  | .bigint _ => .integral .bigint
  | .text _ | .uuid _ => .varchar
  | .bool _ => .boolean

end SchemaMigration.Sql
