import SchemaMigration.Binary64
import SchemaMigration.Text.Quoted

/-!
# The meaning of scalars

What a plain scalar stands for: nothing, a truth value, a number or its own text.

* `resolve` is the meaning of a plain scalar.
* `Meaning.describe` says what kind of value it is.
-/

namespace SchemaMigration.Yaml

/-- What a scalar stands for. -/
inductive Meaning where
  | null
  | bool (value : Bool)
  /-- An integer of at most sixty-four bits. -/
  | int (value : Int)
  /-- An integer of at most one hundred and twenty-eight bits. -/
  | bigInt (value : Int)
  | float (value : Binary64)
  | text (value : String)
  deriving DecidableEq, Repr

/-- Whether a text is a spelling of nothing. -/
def isNullText (s : String) : Bool :=
  s == "~" || s == "null" || s == "Null" || s == "NULL"

/-- The truth value that a text spells. -/
def parseBool? (s : String) : Option Bool :=
  if s == "true" || s == "True" || s == "TRUE" then some true
  else if s == "false" || s == "False" || s == "FALSE" then some false
  else none

/-- Whether a text is digits with a leading zero, behind a sign or not: no number. -/
def isPaddedNumber (s : List Char) : Bool :=
  let digits := match s with
    | '-' :: r => r
    | '+' :: r => r
    | r => r
  match digits with
  | '0' :: c :: rest => (c :: rest).all Text.isDigit
  | _ => false

/-- The number that digits behind the mark of a base denote. -/
def ofMarkedDigits? : List Char → Option Nat
  | '0' :: 'x' :: rest => Text.ofDigits? 16 rest
  | '0' :: 'o' :: rest => Text.ofDigits? 8 rest
  | '0' :: 'b' :: rest => Text.ofDigits? 2 rest
  | _ => none

/-- A number, if it is below a bound. -/
def below? (bound n : Nat) : Option Nat :=
  if n < bound then some n else none

/-- The number below a bound that a text denotes. -/
def parseNat? (bound : Nat) (s : List Char) : Option Nat :=
  let digits := match s with
    | '+' :: r => r
    | r => r
  match (ofMarkedDigits? digits).bind (below? bound) with
  | some n => some n
  | none =>
    if isPaddedNumber s then none else (Text.ofDigits? 10 digits).bind (below? bound)

/-- The number from minus a bound to below it that a text denotes. -/
def parseInt? (bound : Nat) (s : List Char) : Option Int :=
  let marked := match s with
    | '-' :: r => (ofMarkedDigits? r).bind (below? (bound + 1))
    | _ => none
  match marked with
  | some n => some (-(n : Int))
  | none =>
    if isPaddedNumber s then none
    else match Text.ofSignedDigits? 10 s with
      | some n => if -(bound : Int) ≤ n ∧ n < bound then some n else none
      | none => none

/-- The integer that a text denotes. -/
def parseInteger? (s : String) : Option Meaning :=
  let cs := s.toList
  match parseNat? (twoTo 64) cs, parseInt? (twoTo 63) cs with
  | some n, _ => some (.int n)
  | none, some n => some (.int n)
  | none, none =>
    match parseNat? (twoTo 128) cs, parseInt? (twoTo 127) cs with
    | some n, _ => some (.bigInt n)
    | none, some n => some (.bigInt n)
    | none, none => none

/-- The floating point number that a text denotes. -/
def parseFloat? (s : String) : Option Binary64 :=
  if s == ".inf" || s == ".Inf" || s == ".INF" || s == "+.inf" || s == "+.Inf" || s == "+.INF" then
    some (Binary64.infinity false)
  else if s == "-.inf" || s == "-.Inf" || s == "-.INF" then some (Binary64.infinity true)
  else if s == ".nan" || s == ".NaN" || s == ".NAN" then some Binary64.nan
  else match Binary64.ofText? s.toList with
    | some x => if x.isFinite then some x else none
    | none => none

/-- What a plain scalar stands for. -/
def resolve (s : String) : Meaning :=
  if s == "" || isNullText s then .null
  else match parseBool? s, parseInteger? s with
    | some b, _ => .bool b
    | none, some n => n
    | none, none =>
      if isPaddedNumber s.toList then .text s
      else match parseFloat? s with
        | some x => .float x
        | none => .text s

/-- What kind of value a scalar is, as messages say. -/
def Meaning.describe : Meaning → String
  | .null => "unit value"
  | .bool b => if b then "boolean \x60true\x60" else "boolean \x60false\x60"
  | .int n => "integer \x60" ++ Text.decimalInt n ++ "\x60"
  | .bigInt n =>
    "integer \x60" ++ Text.decimalInt n ++ (if 0 ≤ n then "\x60 as u128" else "\x60 as i128")
  | .float x => "floating point \x60" ++ x.toText Binary64.messageLayout ++ "\x60"
  | .text s => "string " ++ Text.quoted s

end SchemaMigration.Yaml
