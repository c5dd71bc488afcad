import Mathlib.Tactic.Common
import Mathlib.Tactic.SplitIfs

/-!
# The order of texts is the order of their bytes

Texts are compared by their characters. An encoding in UTF-8 begins with a byte that tells how long
it is, longer ones with greater bytes, and goes on with the bits of the character from the highest
to the lowest, so the bytes of two texts compare in the same way.

* `sixBits_lt`: numbers compare like what is left without their last six bits, then like these.
* `utf8EncodeChar_append_lt`: the first character that differs decides.
* `bytes_lt_bytes_iff`: the two orders are the same.
-/

namespace SchemaMigration.Text

/-- The bytes of a text. -/
def bytes (s : String) : List UInt8 :=
  s.toUTF8.data.toList

theorem bytes_eq (s : String) : bytes s = s.toList.flatMap String.utf8EncodeChar := by
  rw [bytes, String.toUTF8_eq_toByteArray, ← String.utf8Encode_toList, List.utf8Encode]
  simp

theorem codePoint_lt (c : Char) : c.val.toNat < 0x110000 := by
  rcases c.valid with hlow | hhigh
  · exact Nat.lt_trans hlow (by decide)
  · exact hhigh.2

/-- Of two numbers, the smaller one has the smaller leading bits, or else the smaller next six. -/
theorem sixBits_lt {v w : Nat} (k : Nat) (h : v / k < w / k) :
    v / (k * 64) < w / (k * 64) ∨ v / (k * 64) = w / (k * 64) ∧ v / k % 64 < w / k % 64 := by
  rw [← Nat.div_div_eq_div_mul, ← Nat.div_div_eq_div_mul]
  omega

/-- The smaller character has the smaller bytes, and the difference comes before either ends. -/
theorem utf8EncodeChar_append_lt {c d : Char} (h : c < d) (x y : List UInt8) :
    String.utf8EncodeChar c ++ x < String.utf8EncodeChar d ++ y := by
  have hlt : c.val.toNat < d.val.toNat := by
    rwa [Char.lt_def, UInt32.lt_iff_toNat_lt] at h
  have hc := codePoint_lt c
  have hd := codePoint_lt d
  simp only [String.utf8EncodeChar]
  generalize c.val.toNat = v at *
  generalize d.val.toNat = w at *
  by_cases hlong : v ≤ 65535
  · -- the first bytes tell encodings of different lengths apart
    split_ifs <;>
      simp only [List.cons_append, List.nil_append, List.cons_lt_cons_iff,
        UInt8.lt_iff_toNat_lt, ← UInt8.toNat_inj, UInt8.toNat_ofNat'] <;>
      omega
  · -- both have four bytes, which compare from the last one back
    have hv : ¬ v ≤ 127 ∧ ¬ v ≤ 2047 := by omega
    have hw : ¬ w ≤ 127 ∧ ¬ w ≤ 2047 ∧ ¬ w ≤ 65535 := by omega
    have hsix : v / 64 < w / 64 ∨ v / 64 = w / 64 ∧ v % 64 < w % 64 := by omega
    simp only [hv, hw, hlong, if_false, List.cons_append, List.nil_append, List.cons_lt_cons_iff,
      UInt8.lt_iff_toNat_lt, ← UInt8.toNat_inj, UInt8.toNat_ofNat']
    rcases hsix with hlt | ⟨heq, hlast⟩
    · rcases sixBits_lt 64 hlt with hlt | ⟨heq, hthird⟩
      · rcases sixBits_lt 4096 hlt with hlt | ⟨heq, hsecond⟩
        · exact .inl (by omega)
        · exact .inr ⟨by omega, .inl (by omega)⟩
      · exact .inr ⟨by omega, .inr ⟨by omega, .inl (by omega)⟩⟩
    · exact .inr ⟨by omega, .inr ⟨by omega, .inr ⟨by omega, .inl (by omega)⟩⟩⟩

theorem flatMap_utf8EncodeChar_lt {cs ds : List Char} (h : cs < ds) :
    cs.flatMap String.utf8EncodeChar < ds.flatMap String.utf8EncodeChar := by
  induction cs generalizing ds with
  | nil =>
      cases ds with
      | nil => exact absurd h (List.lt_irrefl _)
      | cons d ds =>
          have hne : String.utf8EncodeChar d ≠ [] := String.utf8EncodeChar_ne_nil
          obtain ⟨b, bs, hbytes⟩ := List.exists_cons_of_ne_nil hne
          rw [List.flatMap_nil, List.flatMap_cons, hbytes]
          exact List.nil_lt_cons ..
  | cons c cs ih =>
      cases ds with
      | nil => exact absurd h (List.not_lt_nil _)
      | cons d ds =>
          rw [List.flatMap_cons, List.flatMap_cons]
          rcases List.cons_lt_cons_iff.mp h with hlt | ⟨rfl, hrest⟩
          · exact utf8EncodeChar_append_lt hlt _ _
          · exact List.append_left_lt (ih hrest)

/-- Texts stand in the order of their bytes. -/
theorem bytes_lt_bytes_iff {a b : String} : bytes a < bytes b ↔ a < b := by
  rw [bytes_eq, bytes_eq, String.lt_iff]
  constructor
  · intro hbytes
    by_contra hnot
    -- otherwise the bytes would compare the other way round
    rcases List.le_iff_lt_or_eq.mp (List.not_lt.mp hnot) with hlt | heq
    · exact List.lt_asymm hbytes (flatMap_utf8EncodeChar_lt hlt)
    · rw [heq] at hbytes
      exact List.lt_irrefl _ hbytes
  · exact flatMap_utf8EncodeChar_lt

end SchemaMigration.Text
