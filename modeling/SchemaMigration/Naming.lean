import SchemaMigration.Script

/-!
# File names of scripts

A naming scheme says which file names are scripts and where their version stands: a stem, a fixed
number of digits, a separator, any text without a line feed, a point and an extension. All versions
have the same number of digits, so the order of names is the order of versions.

* `NamingScheme.make` checks the parts.
* `NamingScheme.accepts` is the grammar of names.
* `NamingScheme.version` reads the digits behind the stem, whatever else the name holds.
* `NamingScheme.fileName` writes a name.
-/

namespace SchemaMigration

/-- The greatest number of digits of a version, so that every version fits thirty-two bits. -/
def maxVersionWidth : Nat := 9

/-- The shape of the file names of scripts. -/
structure NamingScheme where
  stem : String
  width : Nat
  separator : String
  extension : String
  stem_ne : stem ≠ ""
  width_pos : 0 < width
  width_le : width ≤ maxVersionWidth
  extension_ne : extension ≠ ""

/-- Why parts make no naming scheme. -/
inductive SchemeError where
  | emptyStem
  | badWidth (width : Nat)
  | emptyExtension
  deriving DecidableEq, Repr

/-- The error as it is reported. -/
def SchemeError.message : SchemeError → String
  | .emptyStem => "[S004] Invalid script naming scheme: prefix must not be empty"
  | .badWidth width =>
    "[S004] Invalid script naming scheme: version width must be between 1 and "
      ++ Text.decimal maxVersionWidth ++ ", got " ++ Text.decimal width
  | .emptyExtension => "[S004] Invalid script naming scheme: extension must not be empty"

/-- A file name without a number where its version belongs. -/
structure VersionError where
  file : String
  found : String
  deriving DecidableEq, Repr

/-- The error as it is reported. -/
def VersionError.message (e : VersionError) : String :=
  "[S001] Cannot parse version of script " ++ e.file ++ ": '" ++ e.found ++ "' is not a number"

namespace NamingScheme

/-- The scheme with the given parts, or the first part at fault. -/
def make (stem : String) (width : Nat) (separator extension : String) :
    Except SchemeError NamingScheme :=
  if hs : stem = "" then .error .emptyStem
  else if hw : 0 < width ∧ width ≤ maxVersionWidth then
    if he : extension = "" then .error .emptyExtension
    else .ok ⟨stem, width, separator, extension, hs, hw.1, hw.2, he⟩
  else .error (.badWidth width)

/-- Names such as `V001__create_users.cql`. -/
def standard : NamingScheme where
  stem := "V"
  width := 3
  separator := "__"
  extension := "cql"
  stem_ne := by decide
  width_pos := by decide
  width_le := by decide
  extension_ne := by decide

/-- The end that every name of the scheme has. -/
def ending (s : NamingScheme) : List Char :=
  '.' :: s.extension.toList

/-- The text without an ending, if it has that ending. -/
def stripEnding? (ending text : List Char) : Option (List Char) :=
  (Text.strip? ending.reverse text.reverse).map List.reverse

/-- The digits and the free part of a name of the scheme. -/
def parts? (s : NamingScheme) (name : List Char) : Option (List Char × List Char) := do
  let rest ← Text.strip? s.stem.toList name
  let digits := rest.take s.width
  if digits.length = s.width && digits.all Text.isDigit then
    let rest ← Text.strip? s.separator.toList (rest.drop s.width)
    let middle ← stripEnding? s.ending rest
    if middle.contains '\n' then none else some (digits, middle)
  else none

/-- Whether a file name belongs to the scheme. -/
def accepts (s : NamingScheme) (name : String) : Bool :=
  (s.parts? name.toList).isSome

/-- What stands in a name where the version belongs: as many bytes behind the stem as the version
has digits, or nothing if characters do not end there. -/
def field (s : NamingScheme) (name : String) : List Char :=
  match Text.dropBytes? s.stem.utf8ByteSize name.toList with
  | some rest => (Text.takeBytes? s.width rest).getD []
  | none => []

/-- The number that digits denote, if it fits thirty-two bits. -/
def number? (digits : List Char) : Option Version :=
  (Text.ofDigits? 10 digits).filter (· < twoTo 32)

/-- The version in a file name. Only the digits are looked at. -/
def version (s : NamingScheme) (name : String) : Except VersionError Version :=
  let field := s.field name
  if field.length = s.width && field.all Text.isDigit then
    match number? field with
    | some v => .ok v
    | none => .error ⟨name, String.ofList field⟩
  else .error ⟨name, String.ofList field⟩

/-- The file name of a version with a description. A version with more digits than the scheme's
width keeps them all. -/
def fileName (s : NamingScheme) (version : Version) (description : String) : String :=
  s.stem ++ Text.padded s.width version ++ s.separator ++ description ++ "." ++ s.extension

end NamingScheme

end SchemaMigration
