import SchemaMigration.Text.Json

/-!
# Names of keyspaces and tables

Names are spliced into statement text, so both kinds are plain unquoted identifiers: an ASCII letter
followed by ASCII letters, digits and underscores, at most forty-eight of them. A name is folded to
lowercase, which is how a catalogue stores an unquoted identifier.

* `Name.WellFormed` is the form of a folded name, carried by every `Name`.
* `Name.parse` checks the rules in order and reports the first one that fails.
-/

namespace SchemaMigration

/-- What a name names. -/
inductive NameKind where
  | keyspace
  | table
  deriving DecidableEq, Repr

/-- The word for a kind in messages. -/
def NameKind.label : NameKind → String
  | .keyspace => "keyspace"
  | .table => "table"

namespace Name

/-- The greatest length of a name. -/
def maxLength : Nat := 48

/-- Whether a character is an ASCII letter. -/
def isLetter (c : Char) : Bool :=
  ('a' ≤ c && c ≤ 'z') || ('A' ≤ c && c ≤ 'Z')

/-- Whether a character may follow the first letter. -/
def isTail (c : Char) : Bool :=
  isLetter c || Text.isDigit c || c == '_'

/-- The lowercase of an ASCII letter; other characters stay as they are. -/
def foldChar (c : Char) : Char :=
  if 'A' ≤ c && c ≤ 'Z' then Char.ofNat (c.toNat + 32) else c

/-- A text with its ASCII letters in lowercase. -/
def fold (s : String) : String :=
  String.ofList (s.toList.map foldChar)

/-- Whether a character is a lowercase ASCII letter. -/
def isLower (c : Char) : Bool :=
  'a' ≤ c && c ≤ 'z'

/-- Whether a character may follow the first letter of a folded name. -/
def isLowerTail (c : Char) : Bool :=
  isLower c || Text.isDigit c || c == '_'

/-- The form of a folded name. -/
def WellFormed : List Char → Bool
  | [] => false
  | c :: cs => isLower c && cs.all isLowerTail && cs.length < maxLength

/-- The rule that a text breaks as a name. -/
inductive Fault where
  | empty
  | badStart
  | badCharacter
  | tooLong
  deriving DecidableEq, Repr

/-- A rule in words. -/
def Fault.message : Fault → String
  | .empty => "must not be empty"
  | .badStart => "must start with an ASCII letter"
  | .badCharacter => "must contain only ASCII letters, digits, and underscores"
  | .tooLong => "must be at most 48 characters"

/-- The first rule that a text breaks, if any. -/
def fault? : List Char → Option Fault
  | [] => some .empty
  | c :: cs =>
    if !isLetter c then some .badStart
    else if !cs.all isTail then some .badCharacter
    else if maxLength ≤ cs.length then some .tooLong
    else none

end Name

/-- A folded, valid name of a keyspace or a table. -/
structure Name (kind : NameKind) where
  text : String
  wellFormed : Name.WellFormed text.toList = true
  deriving DecidableEq

abbrev KeyspaceName := Name .keyspace

abbrev TableName := Name .table

/-- A text that is not a valid name. -/
structure NameError where
  kind : NameKind
  text : String
  fault : Name.Fault
  deriving DecidableEq, Repr

/-- The error as it is reported. -/
def NameError.message (e : NameError) : String :=
  "[C005] Invalid " ++ e.kind.label ++ " name '" ++ e.text ++ "': " ++ e.fault.message

namespace Name

theorem isLower_foldChar {c : Char} (h : isLetter c = true) : isLower (foldChar c) = true := by
  simp only [isLetter, isLower, foldChar, Bool.or_eq_true, Bool.and_eq_true, decide_eq_true_eq,
    Char.le_def, UInt32.le_iff_toNat_le] at *
  split
  · next hu =>
    obtain ⟨h1, h2⟩ := hu
    have e : (Char.ofNat (c.toNat + 32)).val.toNat = c.toNat + 32 := by
      have hv : (c.toNat + 32).isValidChar := by
        left
        have : c.toNat = c.val.toNat := rfl
        have : ('Z' : Char).val.toNat = 90 := rfl
        omega
      have : c.toNat = c.val.toNat := rfl
      have : ('Z' : Char).val.toNat = 90 := rfl
      rw [Char.ofNat, dif_pos hv]
      rfl
    have : c.toNat = c.val.toNat := rfl
    have : ('Z' : Char).val.toNat = 90 := rfl
    have : ('A' : Char).val.toNat = 65 := rfl
    have : ('a' : Char).val.toNat = 97 := rfl
    have : ('z' : Char).val.toNat = 122 := rfl
    omega
  · next hu =>
    rcases h with h | h
    · exact h
    · exact absurd h hu

theorem isLowerTail_foldChar {c : Char} (h : isTail c = true) : isLowerTail (foldChar c) = true := by
  by_cases hl : isLetter c = true
  · simp [isLowerTail, isLower_foldChar hl]
  · have hc : foldChar c = c := by
      simp only [isLetter, foldChar, Bool.or_eq_true, Bool.and_eq_true, decide_eq_true_eq,
        not_or] at *
      simp [hl.2]
    simp only [isTail, isLowerTail, Bool.or_eq_true] at *
    rw [hc]
    rcases h with (h | h) | h
    · exact absurd h hl
    · simp [h]
    · simp [h]

/-- A text without a fault folds to a well-formed name. -/
theorem wellFormed_fold {s : String} (h : fault? s.toList = none) :
    WellFormed (fold s).toList = true := by
  simp only [fold, String.toList_ofList]
  cases hs : s.toList with
  | nil => simp [hs, fault?] at h
  | cons c cs =>
    simp only [hs, fault?] at h
    split at h
    · simp at h
    · next h1 =>
      split at h
      · simp at h
      · next h2 =>
        split at h
        · simp at h
        · next h3 =>
          simp only [Bool.not_eq_eq_eq_not, Bool.not_true] at h1 h2
          simp only [WellFormed, List.map_cons, List.all_map, List.length_map, Bool.and_eq_true,
            decide_eq_true_eq]
          refine ⟨⟨isLower_foldChar (by simpa using h1), ?_⟩, by omega⟩
          have h2' : cs.all isTail = true := by simpa using h2
          rw [List.all_eq_true] at h2' ⊢
          exact fun d hd => isLowerTail_foldChar (h2' d hd)

/-- Checks a text against the rules and folds it to lowercase. -/
def parse (kind : NameKind) (s : String) : Except NameError (Name kind) :=
  match h : fault? s.toList with
  | some fault => .error ⟨kind, s, fault⟩
  | none => .ok ⟨fold s, wellFormed_fold h⟩

/-- Why a JSON value is not a name: it is no string, or the string is not a valid name. -/
inductive ReadError where
  | notText (found : Text.Json)
  | invalid (error : NameError)

/-- The error as it is reported. -/
def ReadError.message : ReadError → String
  | .notText found => "invalid type: " ++ found.describe ++ ", expected a string"
  | .invalid error => error.message

/-- Reads a name from a JSON value. -/
def ofJson (kind : NameKind) : Text.Json → Except ReadError (Name kind)
  | .text s =>
    match parse kind s with
    | .ok name => .ok name
    | .error e => .error (.invalid e)
  | other => .error (.notText other)

end Name

end SchemaMigration
