import SchemaMigration.Power

/-!
# Numerals

Decimal and hexadecimal numerals of natural numbers, written and read.

* `padded` writes at least a given number of decimal digits.
* `ofDigits?` reads the digits of a base back; `digitValue?` is the value of one digit.
* `hexByte` writes a byte as two lowercase digits.
-/

namespace SchemaMigration.Text

/-- Whether a character is one of the ten ASCII digits. -/
def isDigit (c : Char) : Bool :=
  '0' ≤ c && c ≤ '9'

/-- The decimal numeral of a number. -/
def decimal (n : Nat) : String :=
  String.ofList (Nat.toDigits 10 n)

/-- The decimal numeral of a signed number; zero has no sign. -/
def decimalInt : Int → String
  | .ofNat n => decimal n
  | .negSucc n => "-" ++ decimal (n + 1)

/-- The decimal numeral of a number, filled up with leading zeros to a least width. -/
def padded (width n : Nat) : String :=
  let digits := Nat.toDigits 10 n
  String.ofList (List.replicate (width - digits.length) '0' ++ digits)

/-- The digit with a value below sixteen, in lowercase. -/
def hexDigit (n : Nat) : Char :=
  if n < 10 then Char.ofNat (48 + n) else Char.ofNat (87 + n)

/-- The lowercase hexadecimal numeral of a number. -/
def hexadecimal (n : Nat) : String :=
  String.ofList (Nat.toDigits 16 n)

/-- A byte as two lowercase hexadecimal digits. -/
def hexByte (b : UInt8) : List Char :=
  [hexDigit (b.toNat / 16), hexDigit (b.toNat % 16)]

/-- The value of a digit in bases up to sixteen. -/
def digitValue? (c : Char) : Option Nat :=
  if '0' ≤ c && c ≤ '9' then some (c.toNat - 48)
  else if 'a' ≤ c && c ≤ 'f' then some (c.toNat - 87)
  else if 'A' ≤ c && c ≤ 'F' then some (c.toNat - 55)
  else none

/-- One more digit of a numeral; a digit has to be below the base. -/
def pushDigit? (base : Nat) (value : Option Nat) (c : Char) : Option Nat := do
  let v ← value
  let d ← digitValue? c
  if d < base then some (v * base + d) else none

/-- The number that a non-empty string of digits of the base denotes. -/
def ofDigits? (base : Nat) (s : List Char) : Option Nat :=
  if s.isEmpty then none else s.foldl (pushDigit? base) (some 0)

/-- The integer that an optionally signed string of digits of the base denotes. -/
def ofSignedDigits? (base : Nat) : List Char → Option Int
  | '+' :: s => (ofDigits? base s).map Int.ofNat
  | '-' :: s => (ofDigits? base s).map fun n => -Int.ofNat n
  | s => (ofDigits? base s).map Int.ofNat

end SchemaMigration.Text
