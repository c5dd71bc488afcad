import Mathlib.Data.List.TakeWhile
import SchemaMigration.Proofs.Naming.Grammar

/-!
# Names written for versions

A written name has the digits of its version filled up to the width of the scheme. A version with
more digits keeps them all, so some of them stand where names have the separator. Such a name is no
name of the scheme, unless what follows the width happens to begin with the separator, and then it
is read as another version: as the number of the leading digits.

* `NamingScheme.excess`: the digits that do not fit the width.
* `NamingScheme.accepts_fileName_iff`: when a written name is accepted.
* `NamingScheme.version_fileName`: which version it is read as.
* `NamingScheme.fileName_read_back`: when this is the version that it was written for.
* `NamingScheme.exists_fileName_misread`: it need not be.
-/

namespace SchemaMigration

namespace Text

/-- A text that does not change its beginning when digits are put in front of it is made of digits:
its first other character would move. -/
theorem all_isDigit_of_append_eq {front text rest : List Char} (hne : front ≠ [])
    (hfront : ∀ c ∈ front, isDigit c = true) (h : front ++ text = text ++ rest) :
    text.all isDigit = true := by
  rw [List.all_eq_true, ← List.takeWhile_eq_self_iff]
  by_contra hother
  have hstop : (text.takeWhile isDigit).length ≠ text.length := fun hlength =>
    hother ((List.takeWhile_prefix _).eq_of_length hlength)
  -- the leading digits are longer by those in front, and no longer at the same time
  have hlong : (front ++ text).takeWhile isDigit = front ++ text.takeWhile isDigit :=
    List.takeWhile_append_of_pos hfront
  have hshort : (text ++ rest).takeWhile isDigit = text.takeWhile isDigit := by
    rw [List.takeWhile_append, if_neg hstop]
  have hlength := congrArg List.length (hlong.symm.trans ((congrArg _ h).trans hshort))
  rw [List.length_append] at hlength
  exact hne (List.eq_nil_of_length_eq_zero (by omega))

end Text

/-- Names such as `V001users.cql`, without anything between the version and the description. -/
def Sample.bareNaming : NamingScheme :=
  { NamingScheme.standard with separator := "" }

namespace NamingScheme

variable {s : NamingScheme} {v : Version}

/-- The digits of a version for which the width has no room. -/
def excess (s : NamingScheme) (v : Version) : List Char :=
  (Text.padded s.width v).toList.drop s.width

theorem isDigit_of_mem_excess {c : Char} (h : c ∈ s.excess v) : Text.isDigit c = true :=
  Text.isDigit_of_mem_padded (List.mem_of_mem_drop h)

theorem excess_eq_nil_iff : s.excess v = [] ↔ v < tenTo s.width := by
  rw [excess, List.drop_eq_nil_iff, Text.length_padded_le_iff s.width_pos]

/-- The digits in front of the excess fill the width. -/
theorem exists_leading (s : NamingScheme) (v : Version) :
    ∃ leading, (Text.padded s.width v).toList = leading ++ s.excess v ∧
      leading.length = s.width ∧ leading.all Text.isDigit = true := by
  refine ⟨(Text.padded s.width v).toList.take s.width, ?_, ?_, ?_⟩
  · exact (List.take_append_drop ..).symm
  · rw [List.length_take]
    have hle := Text.le_length_padded s.width v
    omega
  · rw [List.all_eq_true]
    exact fun c hc => Text.isDigit_of_mem_padded (List.mem_of_mem_take hc)

theorem toList_fileName {leading : List Char} (description : String)
    (h : (Text.padded s.width v).toList = leading ++ s.excess v) :
    (s.fileName v description).toList = s.stem.toList ++
      (leading ++ (s.excess v ++ s.separator.toList ++ description.toList ++ s.ending)) := by
  simp [fileName, ending, h]

/-- A written name is accepted if its description is one line and the separator is found behind the
width, be it in its own place or not. -/
theorem accepts_fileName_iff (s : NamingScheme) (v : Version) (description : String) :
    s.accepts (s.fileName v description) = true ↔ '\n' ∉ description.toList ∧
      s.separator.toList <+: s.excess v ++ s.separator.toList := by
  obtain ⟨leading, hleading, hlength, hdigits⟩ := exists_leading s v
  simp only [accepts, Option.isSome_iff_exists, Prod.exists, parts?_eq_some_iff,
    toList_fileName description hleading]
  constructor
  · rintro ⟨digits, middle, hname, hlength', -, hline⟩
    have hbehind := List.append_inj_right (List.append_cancel_left hname)
      (hlength.trans hlength'.symm)
    have hsame : s.excess v ++ s.separator.toList ++ description.toList =
        s.separator.toList ++ middle := by
      rw [← List.append_assoc s.separator.toList] at hbehind
      exact List.append_cancel_right hbehind
    have hfound : s.separator.toList <+: s.excess v ++ s.separator.toList := by
      have hfront : s.excess v ++ s.separator.toList <+: s.separator.toList ++ middle := ⟨_, hsame⟩
      refine List.prefix_of_prefix_length_le (List.prefix_append ..) hfront ?_
      rw [List.length_append]
      omega
    refine ⟨fun hdescription => hline ?_, hfound⟩
    -- the description is at the end of the free text
    obtain ⟨moved, hmoved⟩ := hfound
    rw [← hmoved, List.append_assoc] at hsame
    rw [← List.append_cancel_left hsame]
    exact List.mem_append_right _ hdescription
  · rintro ⟨hline, moved, hmoved⟩
    refine ⟨leading, moved ++ description.toList, ?_, hlength, hdigits, ?_⟩
    · rw [← hmoved]
      simp only [List.append_assoc]
    · -- what moves into the free text is the excess in another order
      have hperm : moved.Perm (s.excess v) := by
        rw [← List.perm_append_left_iff s.separator.toList, hmoved]
        exact List.perm_append_comm
      rw [List.mem_append, not_or]
      refine ⟨fun hmem => ?_, hline⟩
      have hdigit := isDigit_of_mem_excess (hperm.mem_iff.mp hmem)
      exact absurd hdigit (by decide)

/-- A written name is read as its version without the excess. -/
theorem version_fileName (s : NamingScheme) (v : Version) (description : String) :
    s.version (s.fileName v description) = .ok (v / tenTo (s.excess v).length) := by
  obtain ⟨leading, hleading, hlength, hdigits⟩ := exists_leading s v
  have hvalue : v = Text.digitsValue leading * tenTo (s.excess v).length +
      Text.digitsValue (s.excess v) := by
    rw [← Text.digitsValue_append, ← hleading, Text.digitsValue_padded]
  have hexcess : Text.digitsValue (s.excess v) < tenTo (s.excess v).length :=
    Text.digitsValue_lt (List.all_eq_true.mpr fun _ => isDigit_of_mem_excess)
  have hquotient : v / tenTo (s.excess v).length = Text.digitsValue leading := by
    refine (congrArg (· / tenTo (s.excess v).length) hvalue).trans ?_
    rw [Nat.mul_comm, Nat.mul_add_div (tenTo_pos _), Nat.div_eq_of_lt hexcess, Nat.add_zero]
  have hname := toList_fileName description hleading
  rw [← List.append_assoc] at hname
  rw [hquotient, version_of_digits hname hlength hdigits]

/-- Only a version without excess is read back. -/
theorem version_fileName_eq_iff (s : NamingScheme) (v : Version) (description : String) :
    s.version (s.fileName v description) = .ok v ↔ v < tenTo s.width := by
  rw [version_fileName, Except.ok.injEq, ← excess_eq_nil_iff]
  constructor
  · intro hsame
    by_contra hne
    have hlarge : tenTo s.width ≤ v := Nat.not_lt.mp (excess_eq_nil_iff.not.mp hne)
    have hpos : 0 < v := Nat.lt_of_lt_of_le (tenTo_pos _) hlarge
    -- a digit less makes the number smaller
    have hscale : 1 < tenTo (s.excess v).length :=
      Nat.one_lt_pow (List.length_pos_iff.mpr hne).ne' (by decide)
    exact absurd hsame (Nat.div_lt_self hpos hscale).ne
  · intro hnil
    rw [hnil]
    exact Nat.div_one v

/-- **Reading names back.** A name that is written for a version is read as this version whenever it
is accepted, unless the version has more digits than the width, the description is one line and the
digits behind the width together with the separator begin with the separator again. That never
happens if there is a character other than a digit in the separator. -/
theorem fileName_read_back (s : NamingScheme) (v : Version) (description : String) :
    ((s.accepts (s.fileName v description) = true →
        s.version (s.fileName v description) = .ok v) ↔
      ¬ (tenTo s.width ≤ v ∧ '\n' ∉ description.toList ∧
        s.separator.toList <+: s.excess v ++ s.separator.toList)) ∧
    ((∃ c ∈ s.separator.toList, Text.isDigit c = false) →
      s.accepts (s.fileName v description) = true →
        s.version (s.fileName v description) = .ok v) := by
  have hread : (s.accepts (s.fileName v description) = true →
      s.version (s.fileName v description) = .ok v) ↔
      ¬ (tenTo s.width ≤ v ∧ '\n' ∉ description.toList ∧
        s.separator.toList <+: s.excess v ++ s.separator.toList) := by
    rw [version_fileName_eq_iff, accepts_fileName_iff, ← Nat.not_le]
    tauto
  refine ⟨hread, fun ⟨c, hc, hother⟩ => hread.mpr ?_⟩
  rintro ⟨hlarge, -, rest, hrest⟩
  -- digits in front of the separator would move the character
  have hne : s.excess v ≠ [] := excess_eq_nil_iff.not.mpr (Nat.not_lt.mpr hlarge)
  have hdigits := Text.all_isDigit_of_append_eq hne (fun _ => isDigit_of_mem_excess) hrest.symm
  rw [List.all_eq_true.mp hdigits c hc] at hother
  cases hother

/-- A separator that begins with a digit and goes on with a letter keeps versions apart. -/
theorem fileName_read_back_sample :
    let s := Sample.denseNaming
    (∃ c ∈ s.separator.toList, Text.isDigit c = false) ∧
      s.accepts (s.fileName 7 "11x") = true ∧ s.version (s.fileName 7 "11x") = .ok 7 := by
  intro s
  have hother : ∃ c ∈ s.separator.toList, Text.isDigit c = false := ⟨'x', by decide +kernel, rfl⟩
  have haccepts : s.accepts (s.fileName 7 "11x") = true := by decide +kernel
  exact ⟨hother, haccepts, (fileName_read_back s 7 "11x").2 hother haccepts⟩

/-- Without a separator the fourth digit of a version counts as the beginning of the free text. -/
theorem exists_fileName_misread :
    ¬ ∀ (s : NamingScheme) (v : Version) (description : String), v < twoTo 32 →
      s.accepts (s.fileName v description) = true →
        s.version (s.fileName v description) = .ok v := by
  intro hall
  have hread := hall Sample.bareNaming 1000 "x" (by decide) (by decide +kernel)
  revert hread
  decide +kernel

end NamingScheme

end SchemaMigration
