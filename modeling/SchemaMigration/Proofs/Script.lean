import SchemaMigration.Proofs.Text.Pieces
import SchemaMigration.Script

/-!
# The statements of a script

A text of statements is given in two ways: by how it is cut, and by how it is written, as statements
with terminators between them and any blanks and terminators around them. The two agree, so nothing
of a text is lost but what separates its statements.

* `IsStatement`: what can be a statement.
* `Written`: a text that is written as some statements.
* `split_append_terminator`: texts that are joined by a terminator are cut each on its own.
* `split_eq_iff_written`: a text is cut into the statements that it is written as.
* `splitting_lossless`: the laws of cutting and joining.
-/

namespace SchemaMigration

open Text

/-- A statement is not empty, holds no terminator, and neither begins nor ends with a blank. -/
structure IsStatement (s : List Char) : Prop extends Trimmed s where
  nonempty : s ≠ []
  unterminated : terminator ∉ s

/-- What may stand around statements: blanks and terminators. -/
def IsGap (s : List Char) : Prop :=
  ∀ c ∈ s, c = terminator ∨ isBlank c = true

/-- What may stand between two statements: a gap with a terminator. -/
structure IsSeparator (s : List Char) : Prop where
  gap : IsGap s
  terminates : terminator ∈ s

instance : DecidablePred IsStatement := fun s =>
  decidable_of_iff ((s.head?.all fun c => !isBlank c) = true ∧
    (s.getLast?.all fun c => !isBlank c) = true ∧ s ≠ [] ∧ terminator ∉ s) (by
      simp only [Option.all_eq_true, Bool.not_eq_true']
      exact ⟨fun h => ⟨⟨h.1, h.2.1⟩, h.2.2.1, h.2.2.2⟩,
        fun h => ⟨h.first, h.last, h.nonempty, h.unterminated⟩⟩)

instance : DecidablePred IsGap :=
  List.decidableBAll fun c => c = terminator ∨ isBlank c = true

instance : DecidablePred IsSeparator := fun s =>
  decidable_of_iff (IsGap s ∧ terminator ∈ s)
    ⟨fun h => ⟨h.1, h.2⟩, fun h => ⟨h.gap, h.terminates⟩⟩

/-- The text is written as these statements: each but the last one is terminated, and there is
nothing else but gaps. -/
inductive Written : List (List Char) → List Char → Prop
  | nothing {gap : List Char} (hgap : IsGap gap) : Written [] gap
  | last {gap s blanks : List Char} (hgap : IsGap gap) (hs : IsStatement s)
      (hblanks : Blank blanks) : Written [s] (gap ++ (s ++ blanks))
  | terminated {gap s blanks rest : List Char} {statements : List (List Char)} (hgap : IsGap gap)
      (hs : IsStatement s) (hblanks : Blank blanks) (hrest : Written statements rest) :
      Written (s :: statements) (gap ++ (s ++ blanks ++ terminator :: rest))

theorem IsGap.nil : IsGap [] := by simp [IsGap]

theorem terminator_not_blank : isBlank terminator = false := by decide

/-! ## Cutting -/

theorem split_append_terminator (front back : List Char) :
    split (front ++ terminator :: back) = split front ++ split back := by
  simp only [split, pieces_append_separator, List.map_append, List.filter_append]

/-- Without a terminator a text is one statement, if it is not blank. -/
theorem split_of_not_mem {s : List Char} (h : terminator ∉ s) :
    split s = [trim s].filter fun s => !s.isEmpty := by
  simp only [split, pieces_of_not_mem h, List.map_cons, List.map_nil]

theorem split_cons_terminator (s : List Char) : split (terminator :: s) = split s :=
  split_append_terminator [] s

/-- A blank in front of a text is not part of a statement. -/
theorem split_cons_blank {c : Char} (hc : isBlank c = true) (s : List Char) :
    split (c :: s) = split s := by
  have hne : c ≠ terminator := by
    rintro rfl
    rw [terminator_not_blank] at hc
    cases hc
  have htrim : ∀ piece, trim (c :: piece) = trim piece := by
    intro piece
    simp [trim, trimStart, hc]
  rcases hpieces : pieces terminator s with _ | ⟨piece, rest⟩
  · exact absurd hpieces (pieces_ne_nil terminator s)
  · simp only [split, pieces, hne, if_false, hpieces, List.map_cons, htrim]

/-- So a gap does not matter. -/
theorem split_gap_append {gap : List Char} (h : IsGap gap) (s : List Char) :
    split (gap ++ s) = split s := by
  induction gap with
  | nil => rfl
  | cons c gap ih =>
      obtain ⟨hc, hgap⟩ := List.forall_mem_cons.mp h
      rw [List.cons_append]
      rcases hc with rfl | hblank
      · rw [split_cons_terminator, ih hgap]
      · rw [split_cons_blank hblank, ih hgap]

theorem split_gap {gap : List Char} (h : IsGap gap) : split gap = [] := by
  have hsplit := split_gap_append h []
  rwa [List.append_nil] at hsplit

theorem split_statement {s blanks : List Char} (hs : IsStatement s) (hblanks : Blank blanks) :
    split (s ++ blanks) = [s] := by
  have hnot : terminator ∉ s ++ blanks := by
    rw [List.mem_append, not_or]
    refine ⟨hs.unterminated, fun hmem => ?_⟩
    have hblank := hblanks terminator hmem
    rw [terminator_not_blank] at hblank
    cases hblank
  have htrim : trim (s ++ blanks) = s := trim_eq .nil hs.toTrimmed hblanks
  simp [split_of_not_mem hnot, htrim, hs.nonempty]

/-! ## Writing -/

theorem split_of_written {statements : List (List Char)} {text : List Char}
    (h : Written statements text) : split text = statements := by
  induction h with
  | nothing hgap => exact split_gap hgap
  | last hgap hs hblanks => rw [split_gap_append hgap, split_statement hs hblanks]
  | terminated hgap hs hblanks hrest ih =>
      rw [split_gap_append hgap, split_append_terminator, split_statement hs hblanks, ih,
        List.singleton_append]

theorem IsGap.append {first second : List Char} (hfirst : IsGap first) (hsecond : IsGap second) :
    IsGap (first ++ second) :=
  List.forall_mem_append.mpr ⟨hfirst, hsecond⟩

/-- A gap in front belongs to the text. -/
theorem Written.gap_append {gap text : List Char} {statements : List (List Char)}
    (h : Written statements text) (hgap : IsGap gap) : Written statements (gap ++ text) := by
  cases h with
  | nothing hother => exact .nothing (hgap.append hother)
  | last hother hs hblanks =>
      rw [← List.append_assoc]
      exact .last (hgap.append hother) hs hblanks
  | terminated hother hs hblanks hrest =>
      rw [← List.append_assoc]
      exact .terminated (hgap.append hother) hs hblanks hrest

theorem isGap_of_blank {s : List Char} (h : Blank s) : IsGap s :=
  fun c hc => .inr (h c hc)

/-- A text without terminators is blank, or it is written as what is left when it is trimmed. -/
theorem written_piece {piece : List Char} (h : terminator ∉ piece) :
    (Blank piece ∧ split piece = []) ∨ ∃ front s blanks, piece = front ++ (s ++ blanks) ∧
      Blank front ∧ IsStatement s ∧ Blank blanks ∧ split piece = [s] := by
  obtain ⟨front, back, hpiece, hfront, hback, htrimmed⟩ := exists_trim piece
  by_cases hempty : trim piece = []
  · left
    rw [hempty, List.append_nil] at hpiece
    have hblank : Blank piece := by
      rw [hpiece]
      exact List.forall_mem_append.mpr ⟨hfront, hback⟩
    exact ⟨hblank, split_gap (isGap_of_blank hblank)⟩
  · right
    refine ⟨front, trim piece, back, ?_, hfront, ⟨htrimmed, hempty, ?_⟩, hback, ?_⟩
    · rw [← List.append_assoc]
      exact hpiece
    · intro hmem
      apply h
      rw [hpiece]
      simp [hmem]
    · simp [split_of_not_mem h, hempty]

/-- Every text is written as the statements that it is cut into. -/
theorem written_split (text : List Char) : Written (split text) text := by
  -- on the length of the text; what follows the first terminator is shorter
  induction hlength : text.length using Nat.strong_induction_on generalizing text with
  | _ n ih =>
      by_cases hmem : terminator ∈ text
      · obtain ⟨piece, rest, rfl, hpiece⟩ := List.eq_append_cons_of_mem hmem
        have hrest : Written (split rest) rest := by
          apply ih rest.length _ rest rfl
          rw [← hlength, List.length_append, List.length_cons]
          omega
        rw [split_append_terminator]
        rcases written_piece hpiece with ⟨hblank, hnone⟩ | ⟨front, s, blanks, rfl, hfront, hs,
          hblanks, hone⟩
        · rw [hnone, List.nil_append, List.append_cons]
          exact hrest.gap_append ((isGap_of_blank hblank).append (by simp [IsGap]))
        · rw [hone, List.singleton_append, List.append_assoc]
          exact .terminated (isGap_of_blank hfront) hs hblanks hrest
      · rcases written_piece hmem with ⟨hblank, hnone⟩ | ⟨front, s, blanks, rfl, hfront, hs,
          hblanks, hone⟩
        · rw [hnone]
          exact .nothing (isGap_of_blank hblank)
        · rw [hone]
          exact .last (isGap_of_blank hfront) hs hblanks

theorem split_eq_iff_written {text : List Char} {statements : List (List Char)} :
    split text = statements ↔ Written statements text := by
  constructor
  · rintro rfl
    exact written_split text
  · exact split_of_written

theorem Written.isStatement {statements : List (List Char)} {text : List Char}
    (h : Written statements text) : ∀ s ∈ statements, IsStatement s := by
  induction h with
  | nothing hgap => simp
  | last hgap hs hblanks => simpa using hs
  | terminated hgap hs hblanks hrest ih => exact List.forall_mem_cons.mpr ⟨hs, ih⟩

/-- Statements that are joined by a separator are written as what they are. -/
theorem written_intercalate {separator : List Char} (hseparator : IsSeparator separator)
    {statements : List (List Char)} (h : ∀ s ∈ statements, IsStatement s) :
    Written statements (separator.intercalate statements) := by
  -- the first terminator of the separator belongs to the statement in front of it
  obtain ⟨blanks, gap, hsplit, hblanks⟩ := List.eq_append_cons_of_mem hseparator.terminates
  have hparts := hsplit ▸ hseparator.gap
  have hblank : Blank blanks := by
    intro c hc
    rcases hparts c (by simp [hc]) with rfl | hblank
    · exact absurd hc hblanks
    · exact hblank
  have hgap : IsGap gap := fun c hc => hparts c (by simp [hc])
  induction statements with
  | nil => exact .nothing .nil
  | cons s statements ih =>
      obtain ⟨hs, hothers⟩ := List.forall_mem_cons.mp h
      cases statements with
      | nil =>
          simpa using Written.last .nil hs .nil
      | cons next statements =>
          have hrest := (ih hothers).gap_append hgap
          have hwritten := Written.terminated .nil hs hblank hrest
          have hjoin : separator.intercalate (s :: next :: statements) = [] ++ (s ++ blanks ++
              terminator :: (gap ++ separator.intercalate (next :: statements))) := by
            rw [List.intercalate_cons_cons]
            nth_rewrite 1 [hsplit]
            simp
          rwa [hjoin]

/-! ## Texts -/

theorem statementsOf_eq_iff {text : String} {statements : List String} :
    statementsOf text = statements ↔ split text.toList = statements.map String.toList := by
  unfold statementsOf
  constructor
  · rintro rfl
    simp [Function.comp_def]
  · intro h
    simp [h, Function.comp_def]

/-- **Cutting loses nothing.** A text is cut into some statements if and only if it is written as
these statements, with nothing but blanks and terminators around them. So what comes out can be a
statement, a terminator cuts a text into two that are cut each on its own, and statements that are
joined by any separator come out as they were; those of a text can be joined and cut again. -/
theorem splitting_lossless :
    (∀ text statements, statementsOf text = statements ↔
      Written (statements.map String.toList) text.toList) ∧
    (∀ text, ∀ s ∈ statementsOf text, IsStatement s.toList) ∧
    (∀ front back, statementsOf (front ++ ";" ++ back) =
      statementsOf front ++ statementsOf back) ∧
    (∀ separator : String, IsSeparator separator.toList →
      ∀ statements : List String, (∀ s ∈ statements, IsStatement s.toList) →
        statementsOf (separator.intercalate statements) = statements) ∧
    ∀ (separator text : String), IsSeparator separator.toList →
      statementsOf (separator.intercalate (statementsOf text)) = statementsOf text := by
  have hstatement : ∀ text, ∀ s ∈ statementsOf text, IsStatement s.toList := by
    intro text s hs
    have hwritten := split_eq_iff_written.mp (statementsOf_eq_iff.mp (rfl : statementsOf text = _))
    exact hwritten.isStatement s.toList (List.mem_map_of_mem hs)
  have hjoined : ∀ separator : String, IsSeparator separator.toList →
      ∀ statements : List String, (∀ s ∈ statements, IsStatement s.toList) →
        statementsOf (separator.intercalate statements) = statements := by
    intro separator hseparator statements h
    rw [statementsOf_eq_iff, split_eq_iff_written, String.toList_intercalate]
    exact written_intercalate hseparator (by simpa using h)
  refine ⟨fun text statements => ?_, hstatement, fun front back => ?_, hjoined,
    fun separator text hseparator => hjoined separator hseparator _ (hstatement text)⟩
  · rw [statementsOf_eq_iff, split_eq_iff_written]
  · have hsplit := split_append_terminator front.toList back.toList
    simp only [statementsOf, String.toList_append, List.append_assoc, ← List.map_append, ← hsplit]
    rfl

example : statementsOf "A; B;; C" = ["A", "B", "C"] := by decide

/-- Statements with blanks inside, joined by a separator of several lines. -/
theorem splitting_lossless_sample :
    let separator := " ;\n; \t"
    let statements := ["SELECT 1", "SELECT\u00a02"]
    IsSeparator separator.toList ∧ (∀ s ∈ statements, IsStatement s.toList) ∧
      statementsOf (separator.intercalate statements) = statements ∧
      statementsOf (separator.intercalate (statementsOf "\u3000SELECT 1;; SELECT\u00a02; ")) =
        statementsOf "\u3000SELECT 1;; SELECT\u00a02; " := by
  intro separator statements
  obtain ⟨-, -, -, hjoined, hagain⟩ := splitting_lossless
  have hseparator : IsSeparator separator.toList := by decide
  have hstatements : ∀ s ∈ statements, IsStatement s.toList := by decide
  exact ⟨hseparator, hstatements, hjoined separator hseparator statements hstatements,
    hagain separator _ hseparator⟩

end SchemaMigration
