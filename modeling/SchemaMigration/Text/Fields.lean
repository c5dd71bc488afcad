import SchemaMigration.Text.Numeral

/-!
# Lists of texts in one text

Texts one after the other, each behind its length, so a text may hold any character.

* `joinFields` writes them and `splitFields?` reads them back.
-/

namespace SchemaMigration.Text

/-- A text behind its length. -/
def field (s : String) : List Char :=
  Nat.toDigits 10 s.length ++ ':' :: s.toList

/-- Texts one after the other. -/
def joinFields (fields : List String) : List Char :=
  fields.flatMap field

/-- Reads texts that stand one after the other. -/
def splitFields? (s : List Char) : Option (List String) :=
  if s.isEmpty then some []
  else
    let digits := s.takeWhile isDigit
    match ofDigits? 10 digits, s.drop digits.length with
    | some n, ':' :: rest =>
      if n ≤ rest.length then
        if _ : (rest.drop n).length < s.length then
          (splitFields? (rest.drop n)).map (String.ofList (rest.take n) :: ·)
        else none
      else none
    | _, _ => none
termination_by s.length
decreasing_by assumption

end SchemaMigration.Text
