import Mathlib.Data.List.TakeWhile
import Mathlib.Tactic.Common
import SchemaMigration.Text.Blank
import SchemaMigration.Text.Pieces

/-!
# Texts cut and trimmed

* `Text.pieces_eq_splitOn`: cutting a text at a character is the splitting of lists.
* `Text.pieces_append_separator`: a separator in a text cuts it into two that are cut on their own.
* `Text.exists_trim`: trimming takes blanks off both ends and nothing else.
* `Text.trim_eq`: it leaves what does not begin or end with a blank.
-/

namespace SchemaMigration.Text

variable {separator : Char} {s : List Char}

theorem pieces_eq_splitOn (separator : Char) (s : List Char) :
    pieces separator s = s.splitOn separator := by
  rw [List.splitOn_eq_splitOnP]
  induction s with
  | nil => rfl
  | cons c cs ih =>
      rw [pieces, List.splitOnP_cons_eq_if_modifyHead, ih]
      by_cases hc : c = separator
      · simp [hc]
      · rcases hrest : cs.splitOnP (· == separator) with _ | ⟨piece, rest⟩
        · exact absurd hrest (List.splitOnP_ne_nil _ cs)
        · simp [hc]

theorem pieces_of_not_mem (h : separator ∉ s) : pieces separator s = [s] := by
  rw [pieces_eq_splitOn, List.splitOn_eq_splitOnP]
  refine List.splitOnP_eq_singleton fun c hc => ?_
  simpa using fun heq : c = separator => h (heq ▸ hc)

theorem pieces_append_separator (separator : Char) (front back : List Char) :
    pieces separator (front ++ separator :: back) =
      pieces separator front ++ pieces separator back := by
  simp only [pieces_eq_splitOn, List.splitOn_eq_splitOnP]
  exact List.splitOnP_append_cons front back (by simp)

theorem pieces_append {front : List Char} (h : separator ∉ front) (back : List Char) :
    pieces separator (front ++ separator :: back) = front :: pieces separator back := by
  rw [pieces_append_separator, pieces_of_not_mem h, List.singleton_append]

/-! ## Blanks at the ends -/

/-- The visible characters of ASCII are no blanks. -/
theorem isBlank_eq_false {c : Char} (hlow : 33 ≤ c.toNat) (hhigh : c.toNat ≤ 126) :
    isBlank c = false := by
  simp only [isBlank, Bool.or_eq_false_iff, Bool.and_eq_false_iff, decide_eq_false_iff_not,
    beq_eq_false_iff_ne]
  omega

/-- The text is made of blanks. -/
def Blank (s : List Char) : Prop :=
  ∀ c ∈ s, isBlank c = true

theorem Blank.nil : Blank [] := by simp [Blank]

/-- The text neither begins nor ends with a blank. -/
structure Trimmed (s : List Char) : Prop where
  first : ∀ c ∈ s.head?, isBlank c = false
  last : ∀ c ∈ s.getLast?, isBlank c = false

theorem Trimmed.reverse (h : Trimmed s) : Trimmed s.reverse where
  first := by simpa using h.last
  last := by simpa using h.first

theorem trimStart_append {blanks : List Char} (h : Blank blanks) (s : List Char) :
    trimStart (blanks ++ s) = trimStart s :=
  List.dropWhile_append_of_pos h

theorem trimStart_of_first (h : ∀ c ∈ s.head?, isBlank c = false) : trimStart s = s := by
  cases s with
  | nil => rfl
  | cons c cs => simp [trimStart, h c rfl]

theorem first_trimStart (s : List Char) : ∀ c ∈ (trimStart s).head?, isBlank c = false := by
  intro c hc
  have hfirst := List.head?_dropWhile_not isBlank s
  rw [Option.mem_def, trimStart] at hc
  rwa [hc] at hfirst

theorem exists_trimStart (s : List Char) : ∃ front, s = front ++ trimStart s ∧ Blank front :=
  ⟨s.takeWhile isBlank, List.takeWhile_append_dropWhile.symm, fun _ => List.mem_takeWhile_imp⟩

/-- What is trimmed off the end is what is trimmed off the start of the reversed text. -/
theorem exists_trimEnd (s : List Char) : ∃ back, s = trimEnd s ++ back ∧ Blank back := by
  obtain ⟨front, hsplit, hblank⟩ := exists_trimStart s.reverse
  refine ⟨front.reverse, ?_, fun c hc => hblank c (List.mem_reverse.mp hc)⟩
  have hback := congrArg List.reverse hsplit
  rwa [List.reverse_reverse, List.reverse_append] at hback

/-- Of a text between blanks the text is left, if it neither begins nor ends with a blank. -/
theorem trim_eq {front back : List Char} (hfront : Blank front) (hs : Trimmed s)
    (hback : Blank back) : trim (front ++ s ++ back) = s := by
  have hblank : Blank back.reverse := fun c hc => hback c (List.mem_reverse.mp hc)
  have hlast : ∀ c ∈ s.reverse.head?, isBlank c = false := by simpa using hs.last
  rw [trim, List.append_assoc, trimStart_append hfront]
  cases s with
  | nil =>
      -- then all of it is blank
      have hstart := trimStart_append hback []
      rw [List.append_nil] at hstart
      rw [List.nil_append, hstart]
      rfl
  | cons c cs =>
      have hfirst : ∀ d ∈ (c :: cs ++ back).head?, isBlank d = false := by simpa using hs.first
      rw [trimStart_of_first hfirst]
      change (trimStart (c :: cs ++ back).reverse).reverse = c :: cs
      rw [List.reverse_append, trimStart_append hblank, trimStart_of_first hlast,
        List.reverse_reverse]

/-- Trimming takes blanks off both ends until there is none. -/
theorem exists_trim (s : List Char) :
    ∃ front back, s = front ++ trim s ++ back ∧ Blank front ∧ Blank back ∧ Trimmed (trim s) := by
  obtain ⟨front, hfront, hblank⟩ := exists_trimStart s
  obtain ⟨back, hback, hblank'⟩ := exists_trimEnd (trimStart s)
  refine ⟨front, back, ?_, hblank, hblank', ?_, ?_⟩
  · rw [List.append_assoc]
    exact hfront.trans (congrArg (front ++ ·) hback)
  · -- the first character that is left is the first one that is no blank
    intro c hc
    apply first_trimStart s c
    have hhead : (trim s).head? = some c := hc
    rw [hback, Option.mem_def, List.head?_append]
    change (trim s).head?.or back.head? = some c
    rw [hhead, Option.some_or]
  · intro c hc
    apply first_trimStart (trimStart s).reverse c
    rw [trim, trimEnd, List.getLast?_reverse] at hc
    exact hc

end SchemaMigration.Text
