import Mathlib.Data.List.Forall2
import Mathlib.Tactic.Common
import SchemaMigration.Identifier

/-!
# The names that are accepted

A name is accepted by its spelling alone, and the case of its letters does not matter afterwards.

* `Name.Spelled`: the spelling of a name.
* `Name.fault?_eq_none_iff`, `Name.parse_eq_ok_iff`: these texts and no others are accepted, and
  stand for their folded forms.
* `Name.fold_eq_fold_iff`: two texts have one folded form if they are the same up to ASCII case.
* `Name.exists_cons`: a folded name begins with a lowercase letter.
-/

namespace SchemaMigration

namespace Name

/-! ## Spelling -/

/-- A name as it may be written: an ASCII letter, then at most forty-seven ASCII letters, digits and
underscores. -/
def Spelled (s : String) : Prop :=
  ∃ first rest, s.toList = first :: rest ∧ isLetter first = true ∧ rest.length ≤ 47 ∧
    ∀ c ∈ rest, isLetter c = true ∨ Text.isDigit c = true ∨ c = '_'

theorem isTail_iff {c : Char} :
    isTail c = true ↔ isLetter c = true ∨ Text.isDigit c = true ∨ c = '_' := by
  simp [isTail, or_assoc]

theorem fault?_cons_eq_none_iff {first : Char} {rest : List Char} :
    fault? (first :: rest) = none ↔
      isLetter first = true ∧ rest.all isTail = true ∧ rest.length < maxLength := by
  simp only [fault?]
  cases isLetter first <;> cases rest.all isTail <;> simp

/-- No rule is broken exactly if the text is spelled like a name. -/
theorem fault?_eq_none_iff {s : String} : fault? s.toList = none ↔ Spelled s := by
  constructor
  · intro h
    rcases hs : s.toList with _ | ⟨first, rest⟩
    · simp [hs, fault?] at h
    · rw [hs, fault?_cons_eq_none_iff, List.all_eq_true] at h
      exact ⟨first, rest, hs, h.1, Nat.le_of_lt_succ h.2.2, fun c hc => isTail_iff.mp (h.2.1 c hc)⟩
  · rintro ⟨first, rest, hs, hfirst, hlength, hrest⟩
    rw [hs, fault?_cons_eq_none_iff, List.all_eq_true]
    exact ⟨hfirst, fun c hc => isTail_iff.mpr (hrest c hc), Nat.lt_succ_of_le hlength⟩

/-- Names with the same text are the same. -/
theorem ext {kind : NameKind} {a b : Name kind} (h : a.text = b.text) : a = b := by
  cases a
  cases b
  cases h
  rfl

/-- A text is read as a name if it is spelled like one, and is then known by its folded form. -/
theorem parse_eq_ok_iff {kind : NameKind} {s : String} {name : Name kind} :
    parse kind s = .ok name ↔ Spelled s ∧ name.text = fold s := by
  rw [← fault?_eq_none_iff]
  unfold parse
  split
  · next fault hfault => simp [hfault]
  · next hnone =>
    rw [Except.ok.injEq]
    constructor
    · rintro rfl
      exact ⟨hnone, rfl⟩
    · rintro ⟨-, htext⟩
      exact ext htext.symm

theorem parse_eq_error_iff {kind : NameKind} {s : String} {e : NameError} :
    parse kind s = .error e ↔ ∃ fault, fault? s.toList = some fault ∧ e = ⟨kind, s, fault⟩ := by
  unfold parse
  split
  · next fault hfault => simp [hfault, eq_comm]
  · next hnone => simp [hnone]

/-! ## Case -/

/-- The capital letters of ASCII. -/
def isCapital (c : Char) : Bool :=
  'A' ≤ c && c ≤ 'Z'

/-- Two texts that differ in nothing but the case of ASCII letters. -/
def SameUpToCase (a b : String) : Prop :=
  List.Forall₂ (fun c d => c = d ∨ isCapital c = true ∧ c.toNat + 32 = d.toNat ∨
    isCapital d = true ∧ d.toNat + 32 = c.toNat) a.toList b.toList

theorem isCapital_iff {c : Char} : isCapital c = true ↔ 65 ≤ c.toNat ∧ c.toNat ≤ 90 := by
  simp only [isCapital, Bool.and_eq_true, decide_eq_true_eq, Char.le_def, UInt32.le_iff_toNat_le]
  rfl

theorem toNat_foldChar (c : Char) :
    (foldChar c).toNat = if isCapital c = true then c.toNat + 32 else c.toNat := by
  have hfold : foldChar c = if isCapital c = true then Char.ofNat (c.toNat + 32) else c := rfl
  rw [hfold]
  split
  · next h =>
    have hbounds := isCapital_iff.mp h
    have hvalid : (c.toNat + 32).isValidChar := .inl (by omega)
    rw [Char.ofNat, dif_pos hvalid]
    rfl
  · rfl

theorem foldChar_eq_foldChar_iff {c d : Char} :
    foldChar c = foldChar d ↔ c = d ∨ isCapital c = true ∧ c.toNat + 32 = d.toNat ∨
      isCapital d = true ∧ d.toNat + 32 = c.toNat := by
  rw [← Char.toNat_inj, toNat_foldChar, toNat_foldChar, ← Char.toNat_inj]
  simp only [isCapital_iff]
  split <;> split <;> omega

theorem fold_eq_fold_iff {a b : String} : fold a = fold b ↔ SameUpToCase a b := by
  have hmap : fold a = fold b ↔ a.toList.map foldChar = b.toList.map foldChar := by
    rw [fold, fold, ← String.toList_inj, String.toList_ofList, String.toList_ofList]
  rw [hmap, ← List.forall₂_eq_eq_eq, List.forall₂_map_left_iff, List.forall₂_map_right_iff]
  simp only [foldChar_eq_foldChar_iff, SameUpToCase]

/-! ## Folded names -/

variable {kind : NameKind}

theorem isLower_iff {c : Char} : isLower c = true ↔ 97 ≤ c.toNat ∧ c.toNat ≤ 122 := by
  simp only [isLower, Bool.and_eq_true, decide_eq_true_eq, Char.le_def, UInt32.le_iff_toNat_le]
  rfl

/-- A folded name is a lowercase letter with lowercase letters, digits and underscores behind it. -/
theorem exists_cons (name : Name kind) : ∃ first rest, name.text.toList = first :: rest ∧
    isLower first = true ∧ ∀ c ∈ rest, isLower c = true ∨ Text.isDigit c = true ∨ c = '_' := by
  have hform := name.wellFormed
  rcases hname : name.text.toList with _ | ⟨first, rest⟩
  · simp [hname, WellFormed] at hform
  · simp only [hname, WellFormed, Bool.and_eq_true, List.all_eq_true] at hform
    refine ⟨first, rest, rfl, hform.1.1, fun c hc => ?_⟩
    simpa [isLowerTail, or_assoc] using hform.1.2 c hc

end Name

end SchemaMigration
