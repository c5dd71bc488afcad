import Mathlib.Computability.Language
import SchemaMigration.Proofs.Naming

/-!
# The grammar of script names

The names of a scheme are given three times: by the regular expression that a name has to match as a
whole, by the parts that it is put together from, and by the position of the version in it, which is
counted in bytes. The three agree for all stems, separators and extensions, whatever characters they
are made of.

* `NamingScheme.pattern`: the regular expression, as the language that it denotes.
* `NamingScheme.Spells`: a name put together from its parts.
* `NamingScheme.version_of_spells`: the version of such a name is the number that its digits denote.
* `NamingScheme.exact_grammar`: the names that are accepted, and their versions.
-/

namespace SchemaMigration

open scoped Computability

namespace Text

/-- A text and no other. -/
def literally (text : String) : Language Char :=
  {text.toList}

/-- The texts of one character of a class. -/
def oneOf (p : Char → Bool) : Language Char :=
  {text | ∃ c, text = [c] ∧ p c = true}

theorem mem_literally {text : String} {cs : List Char} : cs ∈ literally text ↔ cs = text.toList :=
  Iff.rfl

/-- A class repeated gives the texts of that length with characters of the class only. -/
theorem mem_oneOf_pow {p : Char → Bool} {n : Nat} {cs : List Char} :
    cs ∈ oneOf p ^ n ↔ cs.length = n ∧ cs.all p = true := by
  induction n generalizing cs with
  | zero =>
      rw [pow_zero, Language.mem_one, List.length_eq_zero_iff]
      constructor
      · rintro rfl
        exact ⟨rfl, rfl⟩
      · exact fun h => h.1
  | succ n ih =>
      rw [pow_succ', Language.mem_mul]
      constructor
      · rintro ⟨first, ⟨c, rfl, hc⟩, rest, hrest, rfl⟩
        obtain ⟨hlength, hall⟩ := ih.mp hrest
        exact ⟨by simp [hlength], by simp [hc, hall]⟩
      · rintro ⟨hlength, hall⟩
        obtain ⟨c, rest, rfl⟩ := List.exists_cons_of_length_eq_add_one hlength
        rw [List.all_cons, Bool.and_eq_true] at hall
        have hrest : rest.length = n := by simpa using hlength
        exact ⟨[c], ⟨c, rfl, hall.1⟩, rest, ih.mpr ⟨hrest, hall.2⟩, rfl⟩

/-- Repeated any number of times, it gives the texts of all lengths. -/
theorem mem_kstar_oneOf {p : Char → Bool} {cs : List Char} :
    cs ∈ (oneOf p)∗ ↔ cs.all p = true := by
  rw [Language.kstar_eq_iSup_pow, Language.mem_iSup]
  simp only [mem_oneOf_pow]
  constructor
  · rintro ⟨n, -, hall⟩
    exact hall
  · exact fun hall => ⟨cs.length, rfl, hall⟩

end Text

namespace NamingScheme

variable {s : NamingScheme} {name digits middle : String}

/-- The regular expression for names: stem, separator, point and extension stand for themselves, in
between are as many digits as the scheme has and any characters but line feeds. -/
def pattern (s : NamingScheme) : Language Char :=
  Text.literally s.stem * Text.oneOf Text.isDigit ^ s.width * Text.literally s.separator
    * (Text.oneOf (· ≠ '\n'))∗ * Text.literally "." * Text.literally s.extension

/-- A name put together from the digits of a version and a text of one line. -/
structure Spells (s : NamingScheme) (digits middle name : String) : Prop where
  layout : name = s.stem ++ digits ++ s.separator ++ middle ++ "." ++ s.extension
  width : digits.length = s.width
  digits : digits.toList.all Text.isDigit = true
  oneLine : '\n' ∉ middle.toList

/-- A scheme is made of its own parts and of no others. -/
theorem make_eq_ok_iff {stem separator extension : String} {width : Nat} :
    make stem width separator extension = .ok s ↔ s.stem = stem ∧ s.width = width ∧
      s.separator = separator ∧ s.extension = extension := by
  constructor
  · intro hmake
    unfold make at hmake
    -- each part is checked before the scheme is put together
    split at hmake
    · cases hmake
    · split at hmake
      · split at hmake
        · cases hmake
        · obtain rfl := Except.ok.inj hmake
          exact ⟨rfl, rfl, rfl, rfl⟩
      · cases hmake
  · rintro ⟨rfl, rfl, rfl, rfl⟩
    unfold make
    rw [dif_neg s.stem_ne, dif_pos ⟨s.width_pos, s.width_le⟩, dif_neg s.extension_ne]

theorem Spells.toList (h : s.Spells digits middle name) : name.toList =
    s.stem.toList ++ (digits.toList ++ (s.separator.toList ++ (middle.toList ++ s.ending))) := by
  rw [h.layout]
  simp [ending]

/-- The accepted names are those that are put together from a number and a line. -/
theorem accepts_iff_exists_spells :
    s.accepts name = true ↔ ∃ digits middle, s.Spells digits middle name := by
  constructor
  · intro haccepts
    obtain ⟨⟨digits, middle⟩, hparts⟩ := Option.isSome_iff_exists.mp haccepts
    obtain ⟨hname, hlength, hdigits, hline⟩ := parts?_eq_some_iff.mp hparts
    refine ⟨String.ofList digits, String.ofList middle, ?_, ?_, ?_, ?_⟩
    · rw [← String.toList_inj, hname]
      simp [ending]
    · simpa using hlength
    · simpa using hdigits
    · simpa using hline
  · rintro ⟨digits, middle, h⟩
    refine Option.isSome_iff_exists.mpr ⟨(digits.toList, middle.toList), ?_⟩
    have hlength : digits.toList.length = s.width := String.length_toList.trans h.width
    exact parts?_eq_some_iff.mpr ⟨h.toList, hlength, h.digits, h.oneLine⟩

/-- The texts of the regular expression are put together from a number and a line. -/
theorem mem_pattern_iff_exists_spells :
    name.toList ∈ s.pattern ↔ ∃ digits middle, s.Spells digits middle name := by
  simp only [pattern, Language.mem_mul, Text.mem_literally, Text.mem_oneOf_pow,
    Text.mem_kstar_oneOf]
  constructor
  · rintro ⟨_, ⟨_, ⟨_, ⟨_, ⟨_, rfl, digits, ⟨hlength, hdigits⟩, rfl⟩, _, rfl, rfl⟩, middle,
      hmiddle, rfl⟩, _, rfl, rfl⟩, _, rfl, hname⟩
    refine ⟨String.ofList digits, String.ofList middle, ?_, ?_, ?_, ?_⟩
    · rw [← String.toList_inj, ← hname]
      simp
    · simpa using hlength
    · simpa using hdigits
    · intro hline
      have hne := List.all_eq_true.mp hmiddle '\n' (by simpa using hline)
      simp at hne
  · rintro ⟨digits, middle, h⟩
    have hlength : digits.toList.length = s.width := String.length_toList.trans h.width
    have hmiddle : middle.toList.all (· ≠ '\n') = true := by
      rw [List.all_eq_true]
      intro c hc
      exact decide_eq_true fun heq => h.oneLine (heq ▸ hc)
    refine ⟨_, ⟨_, ⟨_, ⟨_, ⟨_, rfl, digits.toList, ⟨hlength, h.digits⟩, rfl⟩, _, rfl, rfl⟩,
      middle.toList, hmiddle, rfl⟩, _, rfl, rfl⟩, _, rfl, ?_⟩
    rw [h.layout]
    simp

/-- The version of a name is found behind the stem, where the digits are. -/
theorem version_of_spells (h : s.Spells digits middle name) :
    s.version name = .ok (Text.digitsValue digits.toList) := by
  have hlength : digits.toList.length = s.width := String.length_toList.trans h.width
  exact version_of_digits (by rw [h.toList, List.append_assoc]) hlength h.digits

theorem digitsValue_lt_of_spells (h : s.Spells digits middle name) :
    Text.digitsValue digits.toList < tenTo s.width := by
  have hlt := Text.digitsValue_lt h.digits
  rwa [String.length_toList, h.width] at hlt

/-- A version that the width has room for is written with exactly that many digits. -/
theorem spells_fileName {v : Version} {description : String} (hv : v < tenTo s.width)
    (hline : '\n' ∉ description.toList) :
    s.Spells (Text.padded s.width v) description (s.fileName v description) where
  layout := rfl
  width := by
    have hle := (Text.length_padded_le_iff s.width_pos).mpr hv
    have hge := Text.le_length_padded s.width v
    rw [String.length_toList] at hle hge
    omega
  digits := List.all_eq_true.mpr fun _ => Text.isDigit_of_mem_padded
  oneLine := hline

/-- **The grammar of names.** A scheme accepts exactly the names that match its regular expression,
which are those made of the stem, as many digits as the width says, the separator, a text without a
line feed, a point and the extension. An accepted name has a version, the number that these digits
denote. A name written for a version that the width has room for is accepted and has that version,
if its description is one line. -/
theorem exact_grammar (s : NamingScheme) :
    (∀ stem width separator extension, make stem width separator extension = .ok s ↔
      s.stem = stem ∧ s.width = width ∧ s.separator = separator ∧ s.extension = extension) ∧
    (∀ name, s.accepts name = true ↔ name.toList ∈ s.pattern) ∧
    (∀ name, s.accepts name = true ↔ ∃ digits middle, s.Spells digits middle name) ∧
    (∀ digits middle name, s.Spells digits middle name →
      s.version name = .ok (Text.digitsValue digits.toList) ∧
        Text.digitsValue digits.toList < tenTo s.width) ∧
    ∀ (v : Version) (description : String), v < tenTo s.width → '\n' ∉ description.toList →
      s.accepts (s.fileName v description) = true ∧
        s.version (s.fileName v description) = .ok v := by
  refine ⟨fun _ _ _ _ => make_eq_ok_iff, fun name => ?_, fun name => accepts_iff_exists_spells,
    fun digits middle name h => ⟨version_of_spells h, digitsValue_lt_of_spells h⟩,
    fun v description hv hline => ?_⟩
  · rw [accepts_iff_exists_spells, mem_pattern_iff_exists_spells]
  · have hspells := spells_fileName hv hline
    refine ⟨accepts_iff_exists_spells.mpr ⟨_, _, hspells⟩, ?_⟩
    rw [version_of_spells hspells, Text.digitsValue_padded]

end NamingScheme

/-- Names such as `é.[071x1users.sql`, with a stem of characters that mean something in regular
expressions or have more than one byte, and with a separator that begins with a digit. -/
def Sample.denseNaming : NamingScheme where
  stem := "é.["
  width := 2
  separator := "1x"
  extension := "sql"
  stem_ne := by decide
  width_pos := by decide
  width_le := by decide
  extension_ne := by decide

namespace NamingScheme

/-- A name with a second separator in its free text, read and written. -/
theorem exact_grammar_sample :
    let s := Sample.denseNaming
    let name := "é.[071x1x.2.sql"
    make "é.[" 2 "1x" "sql" = .ok s ∧ s.Spells "07" "1x.2" name ∧ s.accepts name = true ∧
      name.toList ∈ s.pattern ∧ s.version name = .ok 7 ∧
      7 < tenTo s.width ∧ '\n' ∉ "1x.2".toList ∧ s.accepts (s.fileName 7 "1x.2") = true ∧
      s.version (s.fileName 7 "1x.2") = .ok 7 := by
  intro s name
  obtain ⟨hmake, hpattern, hspells, hversion, hwritten⟩ := exact_grammar s
  have hname : s.Spells "07" "1x.2" name :=
    ⟨by decide +kernel, by decide +kernel, by decide +kernel, by decide +kernel⟩
  have haccepts : s.accepts name = true := (hspells name).mpr ⟨_, _, hname⟩
  have hvalue : Text.digitsValue "07".toList = 7 := by decide +kernel
  have hwidth : 7 < tenTo s.width := by decide
  have hline : '\n' ∉ "1x.2".toList := by decide +kernel
  exact ⟨(hmake _ _ _ _).mpr ⟨rfl, rfl, rfl, rfl⟩, hname, haccepts, (hpattern name).mp haccepts,
    hvalue ▸ (hversion _ _ _ hname).1, hwidth, hline, hwritten 7 "1x.2" hwidth hline⟩

end NamingScheme

end SchemaMigration
