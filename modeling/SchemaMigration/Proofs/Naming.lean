import SchemaMigration.Naming
import SchemaMigration.Proofs.Text.Numeral

/-!
# Versions of accepted names

A name of the scheme begins with the stem and as many digits as the scheme has, so its version is
the number that these digits denote.

* `NamingScheme.parts?_eq_some_iff`: what the parts of a name are.
* `NamingScheme.version_of_accepts`: every accepted name has a version.
* `NamingScheme.version_lt_of_accepts`: it fits the column of the ledger.
* `NamingScheme.version_mono`: the order of names is the order of versions.
-/

namespace SchemaMigration

namespace Text

/-- Behind as many bytes as a text has comes what follows the text. -/
theorem dropBytes?_append (cs rest : List Char) :
    dropBytes? (String.ofList cs).utf8ByteSize (cs ++ rest) = some rest := by
  induction cs with
  | nil => cases rest <;> simp [dropBytes?]
  | cons c cs ih =>
      have hsize : (String.ofList (c :: cs)).utf8ByteSize =
          c.utf8Size + (String.ofList cs).utf8ByteSize := by
        rw [← List.singleton_append, String.ofList_append, String.utf8ByteSize_append,
          ← String.singleton_eq_ofList, String.utf8ByteSize_singleton]
      have hpos := c.utf8Size_pos
      -- a character has a size, so the first step drops it
      obtain ⟨n, hn⟩ : ∃ n, c.utf8Size + (String.ofList cs).utf8ByteSize = n + 1 :=
        ⟨c.utf8Size + (String.ofList cs).utf8ByteSize - 1, by omega⟩
      have hle : c.utf8Size ≤ n + 1 := by omega
      have hrest : n + 1 - c.utf8Size = (String.ofList cs).utf8ByteSize := by omega
      rw [hsize, hn, List.cons_append, dropBytes?, if_pos hle, hrest, ih]

theorem utf8Size_of_isDigit {c : Char} (h : isDigit c = true) : c.utf8Size = 1 := by
  have hbounds := isDigit_iff.mp h
  have hval : c.val ≤ 0x7f := by
    rw [UInt32.le_iff_toNat_le]
    exact Nat.le_trans hbounds.2 (by decide)
  simp [Char.utf8Size, hval]

/-- A digit is one byte, so a number of bytes is a number of digits. -/
theorem takeBytes?_digits {digits : List Char} (h : digits.all isDigit = true)
    (rest : List Char) : takeBytes? digits.length (digits ++ rest) = some digits := by
  induction digits with
  | nil => cases rest <;> simp [takeBytes?]
  | cons c cs ih =>
      rw [List.all_cons, Bool.and_eq_true] at h
      have hsize := utf8Size_of_isDigit h.1
      simp [takeBytes?, hsize, ih h.2]

end Text

namespace NamingScheme

theorem stripEnding?_eq_some_iff {ending text rest : List Char} :
    stripEnding? ending text = some rest ↔ text = rest ++ ending := by
  simp only [stripEnding?, Option.map_eq_some_iff, Text.strip?_eq_some_iff]
  constructor
  · rintro ⟨reversed, htext, rfl⟩
    rw [← List.reverse_reverse text, htext, List.reverse_append, List.reverse_reverse]
  · rintro rfl
    exact ⟨rest.reverse, List.reverse_append, List.reverse_reverse rest⟩

/-- The parts of a name are those that it is put together from. -/
theorem parts?_eq_some_iff {s : NamingScheme} {name digits middle : List Char} :
    s.parts? name = some (digits, middle) ↔
      name = s.stem.toList ++ (digits ++ (s.separator.toList ++ (middle ++ s.ending))) ∧
        digits.length = s.width ∧ digits.all Text.isDigit = true ∧ '\n' ∉ middle := by
  simp only [parts?, Option.bind_eq_bind, Option.bind_eq_some_iff, Text.strip?_eq_some_iff]
  constructor
  · rintro ⟨rest, rfl, hrest⟩
    split at hrest
    · next hdigits =>
      simp only [Bool.and_eq_true, decide_eq_true_eq] at hdigits
      simp only [Option.bind_eq_some_iff, Text.strip?_eq_some_iff,
        stripEnding?_eq_some_iff] at hrest
      obtain ⟨behind, hbehind, found, rfl, hparts⟩ := hrest
      split at hparts
      · cases hparts
      · next hline =>
        simp only [Option.some.injEq, Prod.mk.injEq] at hparts
        obtain ⟨rfl, rfl⟩ := hparts
        refine ⟨?_, hdigits.1, hdigits.2, by simpa using hline⟩
        rw [← hbehind, List.take_append_drop]
    · cases hrest
  · rintro ⟨rfl, hlength, hdigits, hline⟩
    -- the width says where the digits end
    have htake : (digits ++ (s.separator.toList ++ (middle ++ s.ending))).take s.width =
        digits := by
      rw [← hlength, List.take_left]
    have hdrop : (digits ++ (s.separator.toList ++ (middle ++ s.ending))).drop s.width =
        s.separator.toList ++ (middle ++ s.ending) := by
      rw [← hlength, List.drop_left]
    refine ⟨_, rfl, ?_⟩
    rw [htake, hdrop]
    simp only [hlength, hdigits, decide_true, Bool.and_self, if_true, Option.bind_eq_some_iff,
      Text.strip?_eq_some_iff, stripEnding?_eq_some_iff]
    refine ⟨_, rfl, middle, rfl, ?_⟩
    simp [hline]

/-- An accepted name begins with the stem and the digits of a version. -/
theorem exists_digits_of_accepts {s : NamingScheme} {name : String} (h : s.accepts name = true) :
    ∃ digits rest, name.toList = s.stem.toList ++ digits ++ rest ∧ digits.length = s.width ∧
      digits.all Text.isDigit = true := by
  obtain ⟨⟨digits, middle⟩, hparts⟩ := Option.isSome_iff_exists.mp h
  obtain ⟨hname, hlength, hdigits, -⟩ := parts?_eq_some_iff.mp hparts
  exact ⟨digits, _, by rw [hname, List.append_assoc], hlength, hdigits⟩

theorem ne_empty_of_accepts {s : NamingScheme} {name : String} (h : s.accepts name = true) :
    name ≠ "" := by
  rintro rfl
  obtain ⟨digits, rest, hname, -⟩ := exists_digits_of_accepts h
  have hstem : s.stem.toList = [] := by
    have hnil := hname.symm
    simp only [String.toList_empty, List.append_eq_nil_iff] at hnil
    exact hnil.1.1
  exact s.stem_ne (String.toList_eq_nil_iff.mp hstem)

theorem field_of_toList {s : NamingScheme} {name : String} {digits rest : List Char}
    (hname : name.toList = s.stem.toList ++ digits ++ rest) (hlength : digits.length = s.width)
    (hdigits : digits.all Text.isDigit = true) : s.field name = digits := by
  have hdrop : Text.dropBytes? s.stem.utf8ByteSize name.toList = some (digits ++ rest) := by
    have hstem := Text.dropBytes?_append s.stem.toList (digits ++ rest)
    rwa [String.ofList_toList, ← List.append_assoc, ← hname] at hstem
  have htake := Text.takeBytes?_digits hdigits rest
  rw [hlength] at htake
  simp [field, hdrop, htake]

/-- As many digits as a version has at most denote a number of thirty-two bits. -/
theorem number?_of_digits {digits : List Char} (hne : digits ≠ [])
    (hwidth : digits.length ≤ maxVersionWidth) (hdigits : digits.all Text.isDigit = true) :
    number? digits = some (Text.digitsValue digits) := by
  have hlt := Text.digitsValue_lt hdigits
  have hle : tenTo digits.length ≤ tenTo maxVersionWidth :=
    Nat.pow_le_pow_right (by omega) hwidth
  have hfits : tenTo maxVersionWidth ≤ twoTo 32 := by decide
  have hbound : Text.digitsValue digits < twoTo 32 :=
    Nat.lt_of_lt_of_le hlt (Nat.le_trans hle hfits)
  simp [number?, Text.ofDigits?_ten hne hdigits, Option.filter, hbound]

/-- The digits behind the stem are the version, whatever follows. -/
theorem version_of_digits {s : NamingScheme} {name : String} {digits rest : List Char}
    (hname : name.toList = s.stem.toList ++ digits ++ rest) (hlength : digits.length = s.width)
    (hdigits : digits.all Text.isDigit = true) :
    s.version name = .ok (Text.digitsValue digits) := by
  have hne : digits ≠ [] := by
    intro hnil
    -- a scheme has at least one digit
    have hpos := s.width_pos
    simp [hnil] at hlength
    omega
  simp [version, field_of_toList hname hlength hdigits, hlength, hdigits,
    number?_of_digits hne (hlength ▸ s.width_le) hdigits]

/-- An accepted name has a version, which its digits denote. -/
theorem version_of_accepts {s : NamingScheme} {name : String} (h : s.accepts name = true) :
    ∃ digits rest, name.toList = s.stem.toList ++ digits ++ rest ∧ digits.length = s.width ∧
      digits.all Text.isDigit = true ∧ s.version name = .ok (Text.digitsValue digits) := by
  obtain ⟨digits, rest, hname, hlength, hdigits⟩ := exists_digits_of_accepts h
  exact ⟨digits, rest, hname, hlength, hdigits, version_of_digits hname hlength hdigits⟩

/-- Nine digits at most stay below the greatest version that the ledger has room for. -/
theorem version_lt_of_accepts {s : NamingScheme} {name : String} {v : Version}
    (h : s.accepts name = true) (hv : s.version name = .ok v) : v < tenTo maxVersionWidth := by
  obtain ⟨digits, rest, -, hlength, hdigits, hversion⟩ := version_of_accepts h
  have hvalue : v = Text.digitsValue digits := by
    rw [hversion] at hv
    exact (Except.ok.inj hv).symm
  have hlt := Text.digitsValue_lt hdigits
  have hle : tenTo digits.length ≤ tenTo maxVersionWidth :=
    Nat.pow_le_pow_right (by omega) (hlength ▸ s.width_le)
  rw [hvalue]
  exact Nat.lt_of_lt_of_le hlt hle

/-- Versions follow the order of the names. -/
theorem version_mono {s : NamingScheme} {first second : String} {v w : Version}
    (hfirst : s.accepts first = true) (hsecond : s.accepts second = true)
    (hv : s.version first = .ok v) (hw : s.version second = .ok w) (h : first ≤ second) :
    v ≤ w := by
  obtain ⟨ds, x, hds, hlength, hdigits, hversion⟩ := version_of_accepts hfirst
  obtain ⟨es, y, hes, hlength', hdigits', hversion'⟩ := version_of_accepts hsecond
  have hvalue : v = Text.digitsValue ds := (Except.ok.inj (hversion.symm.trans hv)).symm
  have hvalue' : w = Text.digitsValue es := (Except.ok.inj (hversion'.symm.trans hw)).symm
  rw [hvalue, hvalue']
  by_contra hnot
  -- a smaller number behind the common stem makes a smaller name
  have hlt := Text.lt_of_digitsValue_lt hdigits' hdigits (hlength'.trans hlength.symm)
    (Nat.lt_of_not_le hnot) y x
  have hback : second < first := by
    rw [String.lt_iff, hds, hes, List.append_assoc, List.append_assoc]
    exact List.append_left_lt hlt
  exact h hback

end NamingScheme

end SchemaMigration
