import Mathlib.Tactic.Common
import Mathlib.Tactic.Ring
import SchemaMigration.Text.Numeral

/-!
# Values of decimal numerals

A string of decimal digits as a number, leading zeros included.

* `ofDigits?_ten`: reading a string of digits gives its value.
* `digitsValue_lt`: the value is below the power of ten with that many zeros.
* `lt_of_digitsValue_lt`: among strings of one length, the order of the texts is the order of the
  values.
* `digitsValue_padded`: a numeral that is filled up with zeros has the value that it was written
  for.
* `length_padded_le_iff`: it has the length that it is filled up to, unless the number is too large.
* `ofDigits?_decimal`: a numeral that is not filled up is read back as well.
-/

namespace SchemaMigration.Text

/-- The number that a string of decimal digits denotes. -/
def digitsValue : List Char → Nat
  | [] => 0
  | c :: cs => (c.toNat - 48) * tenTo cs.length + digitsValue cs

theorem isDigit_iff {c : Char} : isDigit c = true ↔ 48 ≤ c.toNat ∧ c.toNat ≤ 57 := by
  simp only [isDigit, Bool.and_eq_true, decide_eq_true_eq, Char.le_def, UInt32.le_iff_toNat_le]
  rfl

theorem digitValue?_of_isDigit {c : Char} (h : isDigit c = true) :
    digitValue? c = some (c.toNat - 48) := by
  have hif : ('0' ≤ c && c ≤ '9') = true := h
  simp [digitValue?, hif]

theorem digit_lt_ten {c : Char} (h : isDigit c = true) : c.toNat - 48 < 10 := by
  have hbounds := isDigit_iff.mp h
  omega

/-- Digits are read from the left, each one shifting what has been read. -/
theorem foldl_pushDigit {digits : List Char} (h : digits.all isDigit = true) (value : Nat) :
    digits.foldl (pushDigit? 10) (some value) =
      some (value * tenTo digits.length + digitsValue digits) := by
  induction digits generalizing value with
  | nil => simp [digitsValue, tenTo]
  | cons c cs ih =>
      rw [List.all_cons, Bool.and_eq_true] at h
      have hpush : pushDigit? 10 (some value) c = some (value * 10 + (c.toNat - 48)) := by
        simp [pushDigit?, digitValue?_of_isDigit h.1, digit_lt_ten h.1]
      rw [List.foldl_cons, hpush, ih h.2, digitsValue, List.length_cons, tenTo_succ]
      congr 1
      ring

theorem ofDigits?_ten {digits : List Char} (hne : digits ≠ []) (h : digits.all isDigit = true) :
    ofDigits? 10 digits = some (digitsValue digits) := by
  have hempty : digits.isEmpty = false := by simpa using hne
  simp [ofDigits?, hempty, foldl_pushDigit h]

theorem digitsValue_lt {digits : List Char} (h : digits.all isDigit = true) :
    digitsValue digits < tenTo digits.length := by
  induction digits with
  | nil => exact tenTo_pos 0
  | cons c cs ih =>
      rw [List.all_cons, Bool.and_eq_true] at h
      have hrest := ih h.2
      have hdigit := digit_lt_ten h.1
      rw [digitsValue, List.length_cons, tenTo_succ]
      calc (c.toNat - 48) * tenTo cs.length + digitsValue cs
          < (c.toNat - 48) * tenTo cs.length + tenTo cs.length := by omega
        _ = (c.toNat - 48 + 1) * tenTo cs.length := by ring
        _ ≤ 10 * tenTo cs.length := Nat.mul_le_mul_right _ hdigit
        _ = tenTo cs.length * 10 := Nat.mul_comm ..

/-- A smaller first digit makes a smaller number, whatever follows. -/
theorem digitsValue_cons_lt {c d : Char} {cs ds : List Char} (hc : isDigit c = true)
    (hcs : cs.all isDigit = true) (hlength : cs.length = ds.length) (h : c.toNat < d.toNat) :
    digitsValue (c :: cs) < digitsValue (d :: ds) := by
  have hrest := digitsValue_lt hcs
  have hfirst : c.toNat - 48 + 1 ≤ d.toNat - 48 := by
    have hbounds := isDigit_iff.mp hc
    omega
  rw [digitsValue, digitsValue, ← hlength]
  calc (c.toNat - 48) * tenTo cs.length + digitsValue cs
      < (c.toNat - 48) * tenTo cs.length + tenTo cs.length := by omega
    _ = (c.toNat - 48 + 1) * tenTo cs.length := by ring
    _ ≤ (d.toNat - 48) * tenTo cs.length := Nat.mul_le_mul_right _ hfirst
    _ ≤ (d.toNat - 48) * tenTo cs.length + digitsValue ds := Nat.le_add_right ..

/-- Of two texts that begin with numerals of one length, the one with the smaller number comes
first. -/
theorem lt_of_digitsValue_lt {first second : List Char} (hfirst : first.all isDigit = true)
    (hsecond : second.all isDigit = true) (hlength : first.length = second.length)
    (h : digitsValue first < digitsValue second) (x y : List Char) :
    first ++ x < second ++ y := by
  induction first generalizing second with
  | nil =>
      have hnil : second = [] := by simpa [eq_comm] using hlength
      simp [hnil] at h
  | cons c cs ih =>
      cases second with
      | nil => simp at hlength
      | cons d ds =>
          rw [List.all_cons, Bool.and_eq_true] at hfirst hsecond
          have hlen : cs.length = ds.length := by simpa using hlength
          rw [List.cons_append, List.cons_append, List.cons_lt_cons_iff]
          rcases Nat.lt_trichotomy c.toNat d.toNat with hlt | heq | hgt
          · -- the first digit decides
            exact .inl (by simpa [Char.lt_def, UInt32.lt_iff_toNat_lt] using hlt)
          · -- the first digits are the same, so the others decide
            have hcd : c = d := Char.toNat_inj.mp heq
            subst hcd
            have hrest : digitsValue cs < digitsValue ds := by
              simp only [digitsValue, hlen] at h
              omega
            exact .inr ⟨rfl, ih hfirst.2 hsecond.2 hlen hrest⟩
          · -- the number would be greater
            have hback := digitsValue_cons_lt hsecond.1 hsecond.2 hlen.symm hgt
            omega

/-- Behind other digits, digits count for less. -/
theorem digitsValue_append (first second : List Char) :
    digitsValue (first ++ second) =
      digitsValue first * tenTo second.length + digitsValue second := by
  induction first with
  | nil => simp [digitsValue]
  | cons c cs ih =>
      have hsplit : tenTo (cs ++ second).length = tenTo cs.length * tenTo second.length := by
        rw [List.length_append]
        exact Nat.pow_add ..
      rw [List.cons_append, digitsValue, digitsValue, ih, hsplit]
      ring

/-! ## Numerals as they are written -/

theorem isDigit_eq_isDigit (c : Char) : isDigit c = c.isDigit := by
  rw [Bool.eq_iff_iff, isDigit_iff]
  simp [Char.isDigit, UInt32.le_iff_toNat_le]

theorem digitsValue_eq_ofDigitChars (digits : List Char) :
    digitsValue digits = Nat.ofDigitChars 10 digits 0 := by
  induction digits with
  | nil => rfl
  | cons c cs ih =>
      have hshift : Nat.ofDigitChars 10 (c :: cs) 0 =
          tenTo cs.length * (c.toNat - 48) + Nat.ofDigitChars 10 cs 0 := by
        rw [Nat.ofDigitChars_cons, Nat.ofDigitChars_eq_ofDigitChars_zero, Nat.mul_zero,
          Nat.zero_add]
        rfl
      rw [hshift, digitsValue, ih, Nat.mul_comm]

theorem toList_padded (width n : Nat) : (padded width n).toList =
    List.replicate (width - (Nat.toDigits 10 n).length) '0' ++ Nat.toDigits 10 n := by
  simp [padded]

theorem isDigit_of_mem_padded {width n : Nat} {c : Char} (h : c ∈ (padded width n).toList) :
    isDigit c = true := by
  rw [toList_padded, List.mem_append] at h
  rcases h with hzero | hdigit
  · rw [List.eq_of_mem_replicate hzero]
    rfl
  · rw [isDigit_eq_isDigit]
    exact Nat.isDigit_of_mem_toDigits (by decide) (by decide) hdigit

/-- Reading a written number gives the number, leading zeros or not. -/
theorem digitsValue_padded (width n : Nat) : digitsValue (padded width n).toList = n := by
  rw [digitsValue_eq_ofDigitChars, toList_padded, Nat.ofDigitChars_append,
    Nat.ofDigitChars_replicate_zero, Nat.mul_zero, Nat.ofDigitChars_ten_toDigits]

theorem le_length_padded (width n : Nat) : width ≤ (padded width n).toList.length := by
  simp only [toList_padded, List.length_append, List.length_replicate]
  omega

/-- A number that is too large for the width keeps all its digits. -/
theorem length_padded_le_iff {width n : Nat} (h : 0 < width) :
    (padded width n).toList.length ≤ width ↔ n < tenTo width := by
  have hfits : (Nat.toDigits 10 n).length ≤ width ↔ n < tenTo width :=
    Nat.length_toDigits_le_iff (by decide) h
  rw [← hfits]
  simp only [toList_padded, List.length_append, List.length_replicate]
  omega

/-! ## Numerals without leading zeros -/

theorem toList_decimal (n : Nat) : (decimal n).toList = Nat.toDigits 10 n :=
  String.toList_ofList

theorem isDigit_of_mem_decimal {n : Nat} {c : Char} (h : c ∈ (decimal n).toList) :
    isDigit c = true := by
  rw [toList_decimal] at h
  rw [isDigit_eq_isDigit]
  exact Nat.isDigit_of_mem_toDigits (by decide) (by decide) h

theorem ofDigits?_decimal (n : Nat) : ofDigits? 10 (decimal n).toList = some n := by
  have hdigits : (decimal n).toList.all isDigit = true :=
    List.all_eq_true.mpr fun _ => isDigit_of_mem_decimal
  have hne : (decimal n).toList ≠ [] := by
    rw [toList_decimal]
    exact Nat.toDigits_ne_nil
  rw [ofDigits?_ten hne hdigits, digitsValue_eq_ofDigitChars, toList_decimal,
    Nat.ofDigitChars_ten_toDigits]

end SchemaMigration.Text
