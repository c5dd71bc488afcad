import SchemaMigration.Sql.Calendar
import SchemaMigration.Sql.Datum
import SchemaMigration.Sql.Fault

/-!
# Casts

A value may be turned into a value of another type. What does not fit is a fault; a value that is
not there stays so.

* `DecimalText.parse?` reads the numbers that texts may hold.
* `Datum.cast` is the cast to a type.
-/

namespace SchemaMigration.Sql

/-! ## Texts -/

/-- Whether a character is a blank of the ASCII characters. -/
def isAsciiBlank (c : Char) : Bool :=
  c == ' ' || ('\t' ≤ c && c ≤ '\x0d')

/-- A text without the blanks at both ends. -/
def trimBlanks (s : List Char) : List Char :=
  ((s.dropWhile isAsciiBlank).reverse.dropWhile isAsciiBlank).reverse

/-- Digits without the single underscores between them; nothing, if an underscore stands anywhere
else. -/
def withoutUnderscores? : List Char → Option (List Char)
  | [] => some []
  | [c] => if Text.isDigit c then some [c] else none
  | c :: '_' :: d :: rest =>
    if Text.isDigit c && Text.isDigit d then (withoutUnderscores? (d :: rest)).map (c :: ·) else none
  | c :: rest => if Text.isDigit c then (withoutUnderscores? rest).map (c :: ·) else none

/-- The number `±mantissa * 10 ^ exponent`. -/
structure DecimalText where
  negative : Bool
  mantissa : Nat
  exponent : Int

namespace DecimalText

/-- The sign of a number and what follows it. -/
def splitSign : List Char → Bool × List Char
  | '-' :: rest => (true, rest)
  | '+' :: rest => (false, rest)
  | rest => (false, rest)

/-- Whether a character begins an exponent. -/
def beginsExponent (c : Char) : Bool :=
  c == 'e' || c == 'E'

/-- Reads a decimal number without a sign: digits, a point with digits, an exponent. -/
def parseUnsigned? (negative : Bool) (s : List Char) : Option DecimalText := do
  let front := s.takeWhile (!beginsExponent ·)
  let exponent ← match s.drop front.length with
    | [] => some 0
    | _ :: rest => Text.ofSignedDigits? 10 rest
  let whole := front.takeWhile (· != '.')
  let fraction := front.drop (whole.length + 1)
  let whole ← withoutUnderscores? whole
  let fraction ← withoutUnderscores? fraction
  let mantissa ← Text.ofDigits? 10 (whole ++ fraction)
  if exponent.natAbs < twoTo 15 then some ⟨negative, mantissa, exponent - fraction.length⟩ else none

/-- Reads the number that a text holds between blanks. -/
def parse? (s : List Char) : Option DecimalText :=
  let (negative, digits) := splitSign (trimBlanks s)
  parseUnsigned? negative digits

/-- The number as a quotient. A number with an exponent far out of range stays far out of range. -/
def toRatio (d : DecimalText) : Int × Nat :=
  let m : Int := if d.negative then -(d.mantissa : Int) else d.mantissa
  if 0 ≤ d.exponent then (m * tenTo (min d.exponent.toNat 1000), 1)
  else (m, tenTo (min d.exponent.natAbs 1000))

/-- The integer next to the number, a half away from zero. -/
def toInt (d : DecimalText) : Int :=
  let (num, den) := d.toRatio
  roundAway num den

end DecimalText

/-- The integer that a text holds, also one with a base in front. -/
def integerOfText? (text : String) : Option Int :=
  match trimBlanks text.toList with
  | '0' :: 'x' :: digits | '0' :: 'X' :: digits => (Text.ofDigits? 16 digits).map Int.ofNat
  | '0' :: 'b' :: digits | '0' :: 'B' :: digits => (Text.ofDigits? 2 digits).map Int.ofNat
  | s => (DecimalText.parse? s).map DecimalText.toInt

/-- A text with its ASCII capital letters in lowercase. -/
def lowered (s : List Char) : String :=
  String.ofList (s.map Char.toLower)

/-- The number of double precision that a text holds. -/
def doubleOfText? (text : String) : Option Binary64 :=
  let (negative, body) := DecimalText.splitSign (trimBlanks text.toList)
  let word := lowered body
  if word = "inf" || word = "infinity" then some (.infinity negative)
  else if word = "nan" then some .nan
  else (DecimalText.parseUnsigned? negative body).map fun d =>
    Binary64.ofDecimal negative d.mantissa d.exponent

/-- The truth value that a text stands for. -/
def boolOfText? (text : String) : Option Bool :=
  let word := lowered text.toList
  if ["t", "true", "y", "yes", "1"].contains word then some true
  else if ["f", "false", "n", "no", "0"].contains word then some false
  else none

/-- The identifier that a text spells: thirty-two hexadecimal digits, with hyphens anywhere between
them and perhaps with braces around them. -/
def uuidOfText? (text : String) : Option Uuid := do
  let body ← match text.toList with
    | '\x7b' :: rest => if rest.getLast? = some '\x7d' then some rest.dropLast else none
    | rest => some rest
  let digits := body.filter (· != '-')
  let n ← Text.ofDigits? 16 digits
  if digits.length = 32 then
    some ⟨UInt64.ofNat (n / twoTo 64), UInt64.ofNat (n % twoTo 64)⟩
  else none

/-- The layout of numbers of double precision in texts. -/
def doubleLayout : Binary64.Layout where
  positionalFrom := -4
  positionalBelow := 16
  keepPoint := true
  plusSign := true
  exponentWidth := 2
  notANumber := "nan"
  infinite := "inf"

/-- The digits of a decimal number with its point. -/
def decimalText (unscaled : Int) (scale : Nat) : String :=
  if scale = 0 then Text.decimalInt unscaled
  else
    let sign := if unscaled < 0 then "-" else ""
    let whole := unscaled.natAbs / tenTo scale
    let fraction := unscaled.natAbs % tenTo scale
    sign ++ Text.decimal whole ++ "." ++ Text.padded scale fraction

namespace Datum

/-- A value as a text. -/
def toText : Datum → String
  | null => "NULL"
  | bool b => if b then "true" else "false"
  | int n => Text.decimalInt n
  | decimal unscaled scale => decimalText unscaled scale
  | double x => x.toText doubleLayout
  | text s => s
  | uuid id => id.text
  | date days => (CivilDay.ofDays days).text

/-! ## Casts -/

/-- The fault of a value that does not fit a type. -/
def misfit (d : Datum) (target : String) : Fault :=
  .conversion ("Could not convert '" ++ d.toText ++ "' to " ++ target)

/-- A result, or the fault that there is none. -/
def orMisfit (d : Datum) (target : String) : Option Datum → Except Fault Datum
  | some result => .ok result
  | none => .error (d.misfit target)

/-- The integer that a value is nearest to. Of two equally near, a decimal number or a text takes
the one away from zero, a number of double precision the even one. -/
def toInteger? : Datum → Option Int
  | bool b => some (if b then 1 else 0)
  | int n => some n
  | decimal unscaled scale => some (roundAway unscaled (tenTo scale))
  | double x => x.round?
  | text s => integerOfText? s
  | null | uuid _ | date _ => none

/-- The number of double precision that a value is nearest to. -/
def toDouble? : Datum → Option Binary64
  | bool b => some (.ofInt (if b then 1 else 0))
  | int n => some (.ofInt n)
  | decimal unscaled scale => some (scaledDouble unscaled scale)
  | double x => some x
  | text s => doubleOfText? s
  | null | uuid _ | date _ => none

/-- The number of single precision that a value is nearest to. A finite number of double precision
that is too great has none. -/
def toSingle? (d : Datum) : Option Binary64 := do
  let x ← d.toDouble?
  match d with
  | double y => if y.isFinite && !x.toSingle.isFinite then none else some x.toSingle
  | _ => some x.toSingle

/-- A value as a quotient, if it is a number. -/
def toRatio? : Datum → Option (Int × Nat)
  | bool b => some (if b then 1 else 0, 1)
  | int n => some (n, 1)
  | decimal unscaled scale => some (unscaled, tenTo scale)
  | double x =>
    if x.isFinite then
      let (num, den) := x.toRatio
      some (if x.isNegative then -(num : Int) else num, den)
    else none
  | text s => (DecimalText.parse? s.toList).map DecimalText.toRatio
  | null | uuid _ | date _ => none

/-- The truth value of a value: whether a number is other than zero. -/
def toBool? : Datum → Option Bool
  | bool b => some b
  | int n => some (n != 0)
  | decimal unscaled _ => some (unscaled != 0)
  | double x => some (x.isNaN || x.exponentField != 0 || x.fraction != 0)
  | text s => boolOfText? s
  | null | uuid _ | date _ => none

/-- The decimal number with the given digits that a value is nearest to. -/
def toDecimal? (precision scale : Nat) (d : Datum) : Option Datum := do
  let (num, den) ← d.toRatio?
  let unscaled := roundAway (num * tenTo scale) den
  if unscaled.natAbs < tenTo precision then some (decimal unscaled scale) else none

/-- The identifier that a value is. -/
def toUuid? : Datum → Option Uuid
  | uuid id => some id
  | text s => uuidOfText? s
  | null | bool _ | int _ | decimal _ _ | double _ | date _ => none

/-- The day that a value is. -/
def toDate? : Datum → Option Int
  | date days => some days
  | text s => (CivilDay.parse? (trimBlanks s.toList)).map CivilDay.toDays
  | null | bool _ | int _ | decimal _ _ | double _ | uuid _ => none

/-- The integer of a width that a value is nearest to. -/
def toWidth? (width : IntegerType) (d : Datum) : Option Datum := do
  let n ← d.toInteger?
  if width.holds n then some (int n) else none

/-- Turns a value into one of a type. -/
def cast (d : Datum) (target : SqlType) : Except Fault Datum :=
  if d = null then .ok null
  else match target with
    | .unknown => .ok d
    | .varchar => .ok (text d.toText)
    | .boolean => d.orMisfit "BOOLEAN" (d.toBool?.map bool)
    | .integral width => d.orMisfit "an integer" (d.toWidth? width)
    | .decimal precision scale => d.orMisfit "DECIMAL" (d.toDecimal? precision scale)
    | .real => d.orMisfit "FLOAT" (d.toSingle?.map double)
    | .double => d.orMisfit "DOUBLE" (d.toDouble?.map double)
    | .uuid => d.orMisfit "UUID" (d.toUuid?.map uuid)
    | .date => d.orMisfit "DATE" (d.toDate?.map date)

end Datum

end SchemaMigration.Sql
