import SchemaMigration.Sql.Casting
import SchemaMigration.Sql.Expression

/-!
# Arithmetic and comparison

What operators make of two values. A value that is not there makes the result one that is not there
either.

* `commonType?` is the type in which two values are compared.
* `Datum.order` compares two values of one type.
* `Datum.calculate` adds, subtracts, multiplies and divides.
-/

namespace SchemaMigration.Sql

/-- The number of digits that an integer of a width may have. -/
def IntegerType.digits : IntegerType → Nat
  | .tinyint | .utinyint => 3
  | .smallint | .usmallint => 5
  | .integer | .uinteger => 10
  | .bigint => 19
  | .ubigint => 20
  | .hugeint => 38

/-- The precision and the scale of a type as a type of decimal numbers. -/
def SqlType.asDecimal? : SqlType → Option (Nat × Nat)
  | .integral width => some (width.digits, 0)
  | .decimal precision scale => some (precision, scale)
  | _ => none

/-- A type of decimal numbers with digits in front of the point and behind it. -/
def SqlType.ofDigits (whole scale : Nat) : SqlType :=
  .decimal (min SqlType.maxPrecision (whole + scale)) scale

/-- The type of numbers that holds the numbers of two types. -/
def commonNumericType (a b : SqlType) : SqlType :=
  match a, b with
  | .integral v, .integral w => .integral (v.join w)
  | .double, _ | _, .double => .double
  | .real, _ | _, .real => .real
  | _, _ =>
    match a.asDecimal?, b.asDecimal? with
    | some (p, s), some (q, t) => .ofDigits (max (p - s) (q - t)) (max s t)
    | _, _ => .double

/-- The type in which two values are compared. A text is read as what the other value is. -/
def commonType? (a b : SqlType) : Option SqlType :=
  if a = b then some a
  else match a, b with
    | .unknown, t | t, .unknown => some t
    | .varchar, t | t, .varchar => some t
    | .boolean, t | t, .boolean => if t.isNumeric then some t else none
    | a, b => if a.isNumeric && b.isNumeric then some (commonNumericType a b) else none

/-! ## Numbers of double precision -/

/-- A finite number as a signed quotient. -/
def signedRatio (x : Binary64) : Int × Nat :=
  let (num, den) := x.toRatio
  (if x.isNegative then -(num : Int) else num, den)

/-- The number of double precision nearest to a signed quotient. -/
def ofSignedRatio (num : Int) (den : Nat) : Binary64 :=
  .ofRatio (num < 0) num.natAbs den

/-- Whether a number is a zero of either sign. -/
def isZero (x : Binary64) : Bool :=
  x.isFinite && x.significand == 0

/-- The number with the other sign. -/
def negated (x : Binary64) : Binary64 :=
  if x.isNaN then x else .withSign (!x.isNegative) (x.bits.toNat % twoTo 63)

/-- The sum of two numbers. -/
def addDoubles (x y : Binary64) : Binary64 :=
  if x.isNaN || y.isNaN then .nan
  else if !x.isFinite then
    if !y.isFinite && x.isNegative != y.isNegative then .nan else x
  else if !y.isFinite then y
  else
    let (a, b) := signedRatio x
    let (c, d) := signedRatio y
    let num := a * d + c * b
    if num = 0 then .withSign (x.isNegative && y.isNegative) 0 else ofSignedRatio num (b * d)

/-- The product of two numbers. -/
def mulDoubles (x y : Binary64) : Binary64 :=
  let negative := x.isNegative != y.isNegative
  if x.isNaN || y.isNaN then .nan
  else if !x.isFinite || !y.isFinite then
    if isZero x || isZero y then .nan else .infinity negative
  else
    let (a, b) := x.toRatio
    let (c, d) := y.toRatio
    .ofRatio negative (a * c) (b * d)

/-- The quotient of two numbers, of which the second is not zero. -/
def divDoubles (x y : Binary64) : Binary64 :=
  let negative := x.isNegative != y.isNegative
  if x.isNaN || y.isNaN then .nan
  else if !x.isFinite then if y.isFinite then .infinity negative else .nan
  else if !y.isFinite then .withSign negative 0
  else
    let (a, b) := x.toRatio
    let (c, d) := y.toRatio
    .ofRatio negative (a * d) (b * c)

/-- How two numbers compare. What is not a number equals itself and is above all others. -/
def compareDoubles (x y : Binary64) : Ordering :=
  if x.isNaN || y.isNaN then compare x.isNaN.toNat y.isNaN.toNat
  else
    let place (z : Binary64) : Int × Nat :=
      if z.isFinite then signedRatio z else (if z.isNegative then -(twoTo 1100) else twoTo 1100, 1)
    let (a, b) := place x
    let (c, d) := place y
    compare (a * d) (c * b)

namespace Datum

/-- How two values of one type compare. -/
def order : Datum → Datum → Ordering
  | bool a, bool b => compare a.toNat b.toNat
  | int a, int b => compare a b
  | decimal a s, decimal b t => compare (a * tenTo t) (b * tenTo s)
  | double x, double y => compareDoubles x y
  | text a, text b => compare a b
  | uuid a, uuid b => compare a.text b.text
  | date a, date b => compare a b
  | _, _ => .eq

/-- Whether a comparison holds of two values of one type. -/
def compares (operator : Operator) (a b : Datum) : Bool :=
  let o := a.order b
  match operator with
  | .eq => o == .eq
  | .ne => o != .eq
  | .lt => o == .lt
  | .le => o != .gt
  | .gt => o == .gt
  | .ge => o != .lt
  | _ => false

/-- A calculation on integers. Dividing by zero gives nothing. -/
def calculateIntegers : Operator → Int → Int → Option Int
  | .add, a, b => some (a + b)
  | .sub, a, b => some (a - b)
  | .mul, a, b => some (a * b)
  | .intDiv, a, b => if b = 0 then none else some (Int.tdiv a b)
  | .rem, a, b => if b = 0 then none else some (Int.tmod a b)
  | _, _, _ => none

/-- A calculation on numbers of double precision. Dividing by zero gives nothing. -/
def calculateDoubles : Operator → Binary64 → Binary64 → Option Binary64
  | .add, x, y => some (addDoubles x y)
  | .sub, x, y => some (addDoubles x (negated y))
  | .mul, x, y => some (mulDoubles x y)
  | .div, x, y => if isZero y then none else some (divDoubles x y)
  | _, _, _ => none

/-- A result that has to have a width. -/
def inWidth (width : IntegerType) (n : Int) : Except Fault Datum :=
  if width.holds n then .ok (int n) else .error (.outOfRange "Overflow in a calculation")

/-- A result that has to have a precision. -/
def inPrecision (precision scale : Nat) (unscaled : Int) : Except Fault Datum :=
  if unscaled.natAbs < tenTo precision then .ok (decimal unscaled scale)
  else .error (.outOfRange "Overflow in a calculation")

/-- What an operator makes of two values, as a value of a type. -/
def calculate (operator : Operator) (type : SqlType) (a b : Datum) : Except Fault Datum :=
  match type, a, b with
  | .integral width, int m, int n =>
    match calculateIntegers operator m n with
    | some result => inWidth width result
    | none => .ok null
  | .decimal precision scale, decimal m s, decimal n t =>
    if operator = .mul then inPrecision precision scale (m * n)
    else
      match calculateIntegers operator (m * tenTo (scale - s)) (n * tenTo (scale - t)) with
      | some result => inPrecision precision scale result
      | none => .ok null
  | .real, double x, double y =>
    .ok (((calculateDoubles operator x y).map fun z => double z.toSingle).getD null)
  | _, double x, double y => .ok (((calculateDoubles operator x y).map double).getD null)
  | _, _, _ => .ok null

/-- A number with the other sign. -/
def opposite (type : SqlType) (d : Datum) : Except Fault Datum :=
  match type, d with
  | .integral width, int n => inWidth width (-n)
  | _, decimal unscaled scale => .ok (decimal (-unscaled) scale)
  | _, double x => .ok (double (negated x))
  | _, _ => .ok null

end Datum

end SchemaMigration.Sql
