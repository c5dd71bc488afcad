import SchemaMigration.Text.Numeral

/-!
# The calendar

Days of the Gregorian calendar, which is taken to hold for all years, counted from the first day of
1970.
-/

namespace SchemaMigration.Sql

/-- A day of the calendar. -/
structure CivilDay where
  year : Int
  month : Nat
  day : Nat
  deriving DecidableEq, Repr

namespace CivilDay

/-- Whether a year has a twenty-ninth of February. -/
def isLeap (year : Int) : Bool :=
  year % 4 == 0 && (year % 100 != 0 || year % 400 == 0)

/-- The number of days of a month. -/
def monthLength (year : Int) (month : Nat) : Nat :=
  if month = 2 then (if isLeap year then 29 else 28)
  else if [4, 6, 9, 11].contains month then 30
  else 31

/-- Whether the calendar has the day. -/
def isValid (d : CivilDay) : Bool :=
  1 ≤ d.month && d.month ≤ 12 && 1 ≤ d.day && d.day ≤ monthLength d.year d.month

/-- The number of days from the first of March of the year zero to the first of March of a year. -/
def daysToMarch (year : Int) : Int :=
  year * 365 + year / 4 - year / 100 + year / 400

/-- The number of days from the first of March to the first day of a month, counted from March. -/
def daysToMonth (monthFromMarch : Nat) : Nat :=
  (153 * monthFromMarch + 2) / 5

/-- The number of days since the first day of 1970. The year begins in March for this, so the day
that only some years have comes last. -/
def toDays (d : CivilDay) : Int :=
  let year := if d.month ≤ 2 then d.year - 1 else d.year
  daysToMarch year + daysToMonth ((d.month + 9) % 12) + (d.day - 1 : Int) - 719468

/-- The day that is some days after the first day of 1970. -/
def ofDays (days : Int) : CivilDay :=
  let n := days + 719468
  let era := n / 146097
  let dayOfEra := (n % 146097).toNat
  let yearOfEra :=
    (dayOfEra - dayOfEra / 1460 + dayOfEra / 36524 - dayOfEra / 146096) / 365
  let dayOfYear := dayOfEra - (365 * yearOfEra + yearOfEra / 4 - yearOfEra / 100)
  let monthFromMarch := (5 * dayOfYear + 2) / 153
  let month := if monthFromMarch < 10 then monthFromMarch + 3 else monthFromMarch - 9
  { year := yearOfEra + era * 400 + (if month ≤ 2 then 1 else 0)
    month := month
    day := dayOfYear - daysToMonth monthFromMarch + 1 }

/-- Reads year, month and day with hyphens between them. -/
def parse? (text : List Char) : Option CivilDay := do
  let (negative, text) := match text with
    | '-' :: rest => (true, rest)
    | rest => (false, rest)
  let yearDigits := text.takeWhile Text.isDigit
  let year ← Text.ofDigits? 10 yearDigits
  match text.drop yearDigits.length with
  | '-' :: rest =>
    let monthDigits := rest.takeWhile Text.isDigit
    let month ← Text.ofDigits? 10 monthDigits
    match rest.drop monthDigits.length with
    | '-' :: rest =>
      let day ← Text.ofDigits? 10 rest
      let d : CivilDay := ⟨if negative then -(year : Int) else year, month, day⟩
      if d.isValid && monthDigits.length ≤ 2 && rest.length ≤ 2 then some d else none
    | _ => none
  | _ => none

/-- Year, month and day with hyphens between them. -/
def text (d : CivilDay) : String :=
  let sign := if d.year < 0 then "-" else ""
  sign ++ Text.padded 4 d.year.natAbs ++ "-" ++ Text.padded 2 d.month ++ "-" ++ Text.padded 2 d.day

end CivilDay

end SchemaMigration.Sql
