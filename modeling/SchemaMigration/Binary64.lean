import SchemaMigration.Text.Numeral

/-!
# Double precision numbers

The numbers of the binary64 format, as their bits, with exact conversions to and from rational
numbers and decimal text. All arithmetic is on naturals and integers.

* `Binary64.ofRatio` rounds a quotient to the nearest number, a tie to the even one.
* `Binary64.shortest` gives the fewest decimal digits that read back to the number.
* `Binary64.Layout` says how digits are laid out; `plain` and `scientific` are the two layouts in
  use.
* `Binary64.ofText?` reads a decimal literal.
-/

namespace SchemaMigration

/-- A binary64 number, given by its bits. -/
structure Binary64 where
  bits : UInt64
  deriving DecidableEq, Repr, Inhabited

namespace Binary64

/-- The sign bit. -/
def isNegative (x : Binary64) : Bool :=
  x.bits.toNat / twoTo 63 == 1

/-- The eleven exponent bits. -/
def exponentField (x : Binary64) : Nat :=
  x.bits.toNat / twoTo 52 % 2048

/-- The fifty-two fraction bits. -/
def fraction (x : Binary64) : Nat :=
  x.bits.toNat % twoTo 52

/-- Whether the number is not a number. -/
def isNaN (x : Binary64) : Bool :=
  x.exponentField == 2047 && x.fraction != 0

/-- Whether the number is neither infinite nor not a number. -/
def isFinite (x : Binary64) : Bool :=
  x.exponentField != 2047

/-- The integer `m` of a finite number's magnitude `m * 2 ^ (scale - 1074)`. -/
def significand (x : Binary64) : Nat :=
  if x.exponentField = 0 then x.fraction else x.fraction + twoTo 52

/-- The exponent of a finite number's magnitude, above the least one. -/
def scale (x : Binary64) : Nat :=
  x.exponentField - 1

/-- The bits with a sign put in front of a magnitude. -/
def withSign (negative : Bool) (magnitude : Nat) : Binary64 :=
  ⟨UInt64.ofNat (if negative then twoTo 63 + magnitude else magnitude)⟩

/-- Infinity of either sign. -/
def infinity (negative : Bool) : Binary64 :=
  withSign negative (2047 * twoTo 52)

/-- The number that is not a number. -/
def nan : Binary64 :=
  withSign false (2047 * twoTo 52 + twoTo 51)

/-- A quotient rounded to the nearest integer, a tie to the even one. -/
def roundEven (num den : Nat) : Nat :=
  let q := num / den
  let r := num % den
  if 2 * r < den then q
  else if 2 * r > den then q + 1
  else q + q % 2

/-- The integer logarithm of a positive quotient to the base two. -/
def log2Ratio (num den : Nat) : Int :=
  let e : Int := (Nat.log2 num : Int) - Nat.log2 den
  let fits := if 0 ≤ e then den * twoTo e.toNat ≤ num else den ≤ num * twoTo (-e).toNat
  if fits then e else e - 1

/-- The magnitude, as a significand and a power of two, of a positive quotient rounded to a
precision of `precision` bits above a least exponent. -/
def roundRatio (precision : Nat) (least : Int) (num den : Nat) : Nat × Int :=
  let e := max least (log2Ratio num den - (precision - 1 : Int))
  let q := if 0 ≤ e then roundEven num (den * twoTo e.toNat) else roundEven (num * twoTo (-e).toNat) den
  (q, e)

/-- The binary64 number nearest to a quotient, a tie going to the even one. -/
def ofRatio (negative : Bool) (num den : Nat) : Binary64 :=
  if num = 0 || den = 0 then withSign negative 0
  else
    let (q, e) := roundRatio 53 (-1074) num den
    -- A carry out of the significand lands in the exponent field, where it belongs.
    let magnitude := if q < twoTo 52 then q else q - twoTo 52 + (e + 1075).toNat * twoTo 52
    if 2047 * twoTo 52 ≤ magnitude then infinity negative else withSign negative magnitude

/-- A number's magnitude as a quotient, zero for one that is not finite. -/
def toRatio (x : Binary64) : Nat × Nat :=
  if !x.isFinite then (0, 1)
  else if 1074 ≤ x.scale then (x.significand * twoTo (x.scale - 1074), 1)
  else (x.significand, twoTo (1074 - x.scale))

/-- The number nearest to an integer. -/
def ofInt (n : Int) : Binary64 :=
  ofRatio (n < 0) n.natAbs 1

/-- The number `±m * 10 ^ e` rounded to the nearest. Exponents far outside the format's range
are decided without computing the power. -/
def ofDecimal (negative : Bool) (m : Nat) (e : Int) : Binary64 :=
  let size : Int := (Nat.toDigits 10 m).length
  if m = 0 then withSign negative 0
  else if e + size > 400 then infinity negative
  else if e + size < -400 then withSign negative 0
  else if 0 ≤ e then ofRatio negative (m * tenTo e.toNat) 1
  else ofRatio negative m (tenTo (-e).toNat)

/-- The number with the precision of the binary32 format that is nearest to this one. -/
def toSingle (x : Binary64) : Binary64 :=
  if !x.isFinite then x
  else
    let (num, den) := x.toRatio
    if num = 0 then x
    else
      let (q, e) := roundRatio 24 (-149) num den
      if q * twoTo (e + 149).toNat ≥ twoTo (128 + 149) then infinity x.isNegative
      else if 0 ≤ e then ofRatio x.isNegative (q * twoTo e.toNat) 1
      else ofRatio x.isNegative q (twoTo (-e).toNat)

/-- The integer part of a finite number. -/
def truncate? (x : Binary64) : Option Int :=
  if x.isFinite then
    let (num, den) := x.toRatio
    some (if x.isNegative then -((num / den : Nat) : Int) else (num / den : Nat))
  else none

/-- The nearest integer of a finite number, a tie going to the even one. -/
def round? (x : Binary64) : Option Int :=
  if x.isFinite then
    let (num, den) := x.toRatio
    some (if x.isNegative then -((roundEven num den : Nat) : Int) else (roundEven num den : Nat))
  else none

/-! ## The fewest digits -/

/-- The interval of quotients that round to the number `num / den` with a significand step of
`1 / den`: both ends times four times the denominator. -/
structure Interval where
  low : Nat
  high : Nat
  den : Nat
  closed : Bool

/-- The interval of reals that round to a finite number other than zero. -/
def interval (x : Binary64) : Interval :=
  let m := x.significand
  -- Below a power of two the neighbour is only half as far away.
  let below := if x.fraction = 0 ∧ 1 < x.exponentField then 1 else 2
  let closed := m % 2 == 0
  if 1074 ≤ x.scale then
    let unit := twoTo (x.scale - 1074)
    ⟨(4 * m - below) * unit, (4 * m + 2) * unit, 4, closed⟩
  else
    ⟨4 * m - below, 4 * m + 2, 4 * twoTo (1074 - x.scale), closed⟩

/-- Whether `n * 10 ^ e` lies in the interval. -/
def Interval.contains (i : Interval) (n : Nat) (e : Int) : Bool :=
  let value := if 0 ≤ e then n * tenTo e.toNat * i.den else n * i.den
  let unit := if 0 ≤ e then 1 else tenTo (-e).toNat
  if i.closed then i.low * unit ≤ value && value ≤ i.high * unit
  else i.low * unit < value && value < i.high * unit

/-- The integer logarithm of a positive quotient to the base ten. -/
def log10Ratio (num den : Nat) : Int :=
  let e : Int := ((Nat.toDigits 10 num).length : Int) - (Nat.toDigits 10 den).length
  let fits := if 0 ≤ e then den * tenTo e.toNat ≤ num else den ≤ num * tenTo (-e).toNat
  if fits then e else e - 1

/-- The multiple of `10 ^ e` next below `num / den`, and the remainder as a quotient. -/
def gridFloor (num den : Nat) (e : Int) : Nat × Nat × Nat :=
  if 0 ≤ e then
    let d := den * tenTo e.toNat
    (num / d, num % d, d)
  else
    let n := num * tenTo (-e).toNat
    (n / den, n % den, den)

/-- The significant digits with the fewest digits, at least `k` of them, that read back to the
number; of two candidates on one grid the nearer wins, and of two equally near the even one. -/
def shortestFrom (i : Interval) (num den : Nat) (top : Int) : Nat → Nat → Nat × Int
  | 0, k =>
    let e := top - (k : Int)
    ((gridFloor num den e).1, e)
  | fuel + 1, k =>
    let e := top - (k : Int)
    let (q, r, d) := gridFloor num den e
    let down := q ≠ 0 && i.contains q e
    let up := i.contains (q + 1) e
    if down && up then
      if 2 * r < d then (q, e) else if 2 * r > d then (q + 1, e) else (q + q % 2, e)
    else if down then (q, e)
    else if up then (q + 1, e)
    else shortestFrom i num den top fuel (k + 1)

/-- A number without its trailing zeros, which move to the exponent. -/
def stripZeros : Nat → Nat → Int → Nat × Int
  | 0, n, e => (n, e)
  | fuel + 1, n, e => if n ≠ 0 && n % 10 = 0 then stripZeros fuel (n / 10) (e + 1) else (n, e)

/-- The shortest decimal `n * 10 ^ e` that reads back to a finite number other than zero. -/
def shortest (x : Binary64) : Nat × Int :=
  let (num, den) := x.toRatio
  let (n, e) := shortestFrom x.interval num den (log10Ratio num den) 17 0
  stripZeros 20 n e

/-! ## Text -/

/-- How the digits of a number are laid out. -/
structure Layout where
  /-- The least decimal exponent of the leading digit that is written positionally. -/
  positionalFrom : Int
  /-- The least decimal exponent of the leading digit, above that range, that is not. -/
  positionalBelow : Int
  /-- Whether a positional number without a fraction ends in a point and a zero. -/
  keepPoint : Bool
  /-- Whether an exponent carries a plus sign. -/
  plusSign : Bool
  /-- The least number of digits of an exponent. -/
  exponentWidth : Nat
  notANumber : String
  infinite : String

/-- The layout of floating point cells: an exponent is written below `1e-5` and from `1e16` on. -/
def cellLayout : Layout where
  positionalFrom := -5
  positionalBelow := 16
  keepPoint := true
  plusSign := false
  exponentWidth := 1
  notANumber := "NaN"
  infinite := "inf"

/-- The layout of numbers quoted in messages: never an exponent. -/
def messageLayout : Layout where
  positionalFrom := -400
  positionalBelow := 400
  keepPoint := true
  plusSign := false
  exponentWidth := 1
  notANumber := "NaN"
  infinite := "inf"

/-- A digit string with the point after the leading digit's exponent. -/
def positional (keepPoint : Bool) (digits : List Char) (exponent : Int) : List Char :=
  if exponent < 0 then
    '0' :: '.' :: (List.replicate (-exponent - 1).toNat '0' ++ digits)
  else
    let whole := exponent.toNat + 1
    let front := digits.take whole ++ List.replicate (whole - digits.length) '0'
    match digits.drop whole with
    | [] => if keepPoint then front ++ ['.', '0'] else front
    | rest => front ++ '.' :: rest

/-- A digit string with the point after its first digit, and an exponent. -/
def withExponent (layout : Layout) (digits : List Char) (exponent : Int) : List Char :=
  let front := match digits with
    | d :: e :: rest => d :: '.' :: e :: rest
    | short => short
  let sign := if exponent < 0 then ['-'] else if layout.plusSign then ['+'] else []
  front ++ 'e' :: (sign ++ (Text.padded layout.exponentWidth exponent.natAbs).toList)

/-- The text of a number in a layout. -/
def toText (layout : Layout) (x : Binary64) : String :=
  let sign := if x.isNegative then "-" else ""
  if x.isNaN then layout.notANumber
  else if !x.isFinite then sign ++ layout.infinite
  else if x.significand = 0 then
    sign ++ String.ofList (positional layout.keepPoint ['0'] 0)
  else
    let (n, e) := x.shortest
    let digits := Nat.toDigits 10 n
    let exponent := e + ((digits.length : Int) - 1)
    let body :=
      if layout.positionalFrom ≤ exponent && exponent < layout.positionalBelow then
        positional layout.keepPoint digits exponent
      else withExponent layout digits exponent
    sign ++ String.ofList body

/-- The parts of an unsigned decimal literal: digits with at most one point, at least one digit,
and an optional exponent with an optional sign. The value is the first part times ten to the
power of the second. -/
def decimalParts? (s : List Char) : Option (Nat × Int) := do
  let whole := s.takeWhile Text.isDigit
  let rest := s.dropWhile Text.isDigit
  let (fraction, rest) := match rest with
    | '.' :: r => (r.takeWhile Text.isDigit, r.dropWhile Text.isDigit)
    | r => ([], r)
  let m ← Text.ofDigits? 10 (whole ++ fraction)
  let e ← match rest with
    | [] => some 0
    | c :: r => if c = 'e' || c = 'E' then Text.ofSignedDigits? 10 r else none
  some (m, e - fraction.length)

/-- The number that an optionally signed decimal literal denotes. -/
def ofText? (s : List Char) : Option Binary64 :=
  match s with
  | '-' :: r => (decimalParts? r).map fun (m, e) => ofDecimal true m e
  | '+' :: r => (decimalParts? r).map fun (m, e) => ofDecimal false m e
  | r => (decimalParts? r).map fun (m, e) => ofDecimal false m e

end Binary64

end SchemaMigration
