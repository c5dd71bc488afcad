import SchemaMigration.Proofs.Text.Pieces
import SchemaMigration.Yaml.Node

/-!
# Texts of white space

YAML knows fewer blanks than Unicode does. What it does not know as a blank starts a plain scalar,
so a text of white space may be a document, but a scalar at best.

* `Cursor.Blank`: only white space is left.
* `Layout.Bare`: only plain scalars have been read, and only white space is left.
* `Layout.Bare.next?`, `Layout.Bare.run?`: this stays so up to the end.
* `Stream.not_mapping_of_blank`: a text of white space is no mapping.
-/

namespace SchemaMigration.Yaml

/-! ## What is left of a text -/

namespace Cursor

/-- Only white space is left. -/
def Blank (c : Cursor) : Prop :=
  Text.Blank c.rest

namespace Blank

variable {c : Cursor}

theorem of_drop (h : c.Blank) {next : Cursor} {n : Nat} (hrest : next.rest = c.rest.drop n) :
    next.Blank := fun x hx => h x (List.mem_of_mem_drop (hrest ▸ hx))

theorem skip (h : c.Blank) (n : Nat) : (c.skip n).Blank :=
  h.of_drop rfl

theorem takeBreak (h : c.Blank) : c.takeBreak.2.Blank := by
  unfold Cursor.takeBreak
  split
  · exact h.of_drop rfl
  · split
    · exact h.of_drop rfl
    · split
      · exact h.of_drop rfl
      · exact h
  · exact h

theorem skipComment (h : c.Blank) : c.skipComment.Blank := by
  unfold Cursor.skipComment
  split
  · exact h.skip _
  · exact h

end Blank

end Cursor

open Cursor

theorem blank_takeGap {column fuel : Nat} {gap gap' : Gap} {c c' : Cursor} (h : c.Blank)
    (htake : takeGap column fuel gap c = some (gap', c')) : c'.Blank := by
  induction fuel generalizing gap c with
  | zero =>
    cases htake
    exact h
  | succ fuel ih =>
    unfold takeGap at htake
    split at htake
    · cases htake
      exact h
    · split at htake
      · split at htake
        · split at htake
          · cases htake
          · exact ih (h.skip 1) htake
        · exact ih (h.skip 1) htake
      · split at htake
        · have hnext := h.takeBreak
          split at htake
          next text next hbreak =>
          rw [hbreak] at hnext
          split at htake
          · exact ih hnext htake
          · exact ih hnext htake
        · cases htake
          exact h

theorem blank_takePlain {inFlow : Bool} {column fuel : Nat} {text : List Char} {gap : Gap}
    {c : Cursor} {scalar : Plain} (h : c.Blank)
    (htake : takePlain inFlow column fuel text gap c = some scalar) : scalar.cursor.Blank := by
  induction fuel generalizing text gap c with
  | zero => cases htake
  | succ fuel ih =>
    unfold takePlain at htake
    split at htake
    · cases htake
      exact h
    · split at htake
      · cases htake
      · cases htake
        exact h
      · dsimp only at htake
        split at htake
        · cases htake
        · next gap' next hgap =>
          have hnext := blank_takeGap (h.skip _) hgap
          split at htake
          · cases htake
            exact hnext
          · exact ih hnext htake

/-! ## The layout of white space -/

namespace Layout

/-- Only plain scalars have been read, and only white space is left. -/
structure Bare (l : Layout) : Prop where
  blank : l.cursor.Blank
  indents : l.indents = []
  scalars : ∀ token ∈ l.tokens, ∃ text, token = .scalar true false text

variable {l l' : Layout}

/-- The layouts differ in the keys that are possible. -/
theorem Bare.of_eq (h : l.Bare) (hcursor : l'.cursor = l.cursor) (hindents : l'.indents = l.indents)
    (htokens : l'.tokens = l.tokens) : l'.Bare where
  blank := hcursor ▸ h.blank
  indents := hindents.trans h.indents
  scalars := htokens ▸ h.scalars

theorem Bare.dropKey? (h : l.Bare) (hdrop : l.dropKey? = some l') : l'.Bare := by
  unfold Layout.dropKey? at hdrop
  split at hdrop
  · split at hdrop
    · cases hdrop
    · cases hdrop
      exact h.of_eq rfl rfl rfl
  · cases hdrop
    exact h

theorem Bare.noteKey? (h : l.Bare) (hnote : l.noteKey? = some l') : l'.Bare := by
  unfold Layout.noteKey? at hnote
  split at hnote
  · obtain ⟨dropped, hdrop, hnote⟩ := Option.bind_eq_some_iff.mp hnote
    cases hnote
    exact (h.dropKey? hdrop).of_eq rfl rfl rfl
  · cases hnote
    exact h

theorem Bare.plainScalar? (h : l.Bare) (hplain : l.plainScalar? = some l') : l'.Bare := by
  obtain ⟨noted, hnote, hplain⟩ := Option.bind_eq_some_iff.mp hplain
  obtain ⟨scalar, htake, hplain⟩ := Option.bind_eq_some_iff.mp hplain
  have hnoted := h.noteKey? hnote
  cases hplain
  exact {
    blank := blank_takePlain hnoted.blank htake
    indents := hnoted.indents
    scalars := by
      intro token htoken
      rcases List.mem_cons.mp htoken with rfl | htoken
      · exact ⟨_, rfl⟩
      · exact hnoted.scalars token htoken }

theorem Bare.skipBlank (h : l.Bare) (fuel : Nat) : (l.skipBlank fuel).Bare := by
  induction fuel generalizing l with
  | zero => exact h
  | succ fuel ih =>
    have hnext : ∀ p, ((l.cursor.skipWhile p).skipComment).Blank := fun p =>
      Cursor.Blank.skipComment (h.blank.skip _)
    unfold Layout.skipBlank
    dsimp only
    -- only the cursor moves, and a key may start on the next line
    split
    · split
      · exact ih ⟨(hnext _).takeBreak, h.indents, h.scalars⟩
      · exact ⟨hnext _, h.indents, h.scalars⟩
    · exact ⟨hnext _, h.indents, h.scalars⟩

theorem Bare.unindent (h : l.Bare) (column : Nat) : (l.unindent column).Bare := by
  unfold Layout.unindent
  split
  · exact h
  · rw [h.indents]
    exact h.of_eq rfl h.indents.symm rfl

theorem Bare.unindentAll (h : l.Bare) : l.unindentAll.Bare := by
  unfold Layout.unindentAll
  split
  · exact h
  · rw [h.indents]
    exact h.of_eq rfl h.indents.symm rfl

/-- White space is no indicator, so that only a plain scalar can start there. -/
theorem token?_of_blank {c : Char} {rest : List Char} (hc : Text.isBlank c = true)
    (hrest : l.cursor.rest = c :: rest) (htoken : l.token? c rest = some l') :
    l.plainScalar? = some l' := by
  have hne : ∀ d, Text.isBlank d = false → (c == d) = false := by
    intro d hd
    rw [beq_eq_false_iff_ne]
    rintro rfl
    rw [hc] at hd
    cases hd
  have hmarker : ∀ d, Text.isBlank d = false → l.cursor.atMarker d = false := by
    intro d hd
    unfold Cursor.atMarker
    rw [hrest]
    split
    · next x y z tail heq =>
      rw [List.cons.injEq] at heq
      rw [← heq.1, hne d hd]
      simp
    · simp
  -- every other branch asks for a character that is visible
  simp only [token?, hne _ (by decide : Text.isBlank '%' = false),
    hmarker _ (by decide : Text.isBlank '-' = false),
    hmarker _ (by decide : Text.isBlank '.' = false),
    hne _ (by decide : Text.isBlank '[' = false), hne _ (by decide : Text.isBlank ']' = false),
    hne _ (by decide : Text.isBlank '\x7b' = false),
    hne _ (by decide : Text.isBlank '\x7d' = false),
    hne _ (by decide : Text.isBlank ',' = false), hne _ (by decide : Text.isBlank '-' = false),
    hne _ (by decide : Text.isBlank '?' = false), hne _ (by decide : Text.isBlank ':' = false),
    hne _ (by decide : Text.isBlank '*' = false), hne _ (by decide : Text.isBlank '&' = false),
    hne _ (by decide : Text.isBlank '!' = false), hne _ (by decide : Text.isBlank '|' = false),
    hne _ (by decide : Text.isBlank '>' = false),
    hne _ (by decide : Text.isBlank '\x27' = false),
    hne _ (by decide : Text.isBlank '\x22' = false), Bool.and_false, Bool.false_and, Bool.or_self,
    Bool.false_eq_true, if_false] at htoken
  split at htoken
  · exact htoken
  · cases htoken

theorem Bare.next? (h : l.Bare) {isLast : Bool} (hnext : l.next? = some (isLast, l')) :
    l'.Bare := by
  obtain ⟨keys, -, hnext⟩ := Option.bind_eq_some_iff.mp hnext
  have hskipped := h.skipBlank (l.cursor.rest.length + 1)
  have hkeys : ({ l.skipBlank (l.cursor.rest.length + 1) with keys := keys } : Layout).Bare :=
    hskipped.of_eq rfl rfl rfl
  have hbare := hkeys.unindent (l.skipBlank (l.cursor.rest.length + 1)).cursor.column
  dsimp only at hnext
  split at hnext
  · obtain ⟨last, hdrop, hnext⟩ := Option.bind_eq_some_iff.mp hnext
    cases hnext
    exact hbare.unindentAll.dropKey? hdrop
  · next c rest hrest =>
    obtain ⟨read, htoken, hnext⟩ := Option.map_eq_some_iff.mp hnext
    cases hnext
    have hc := hbare.blank c (by rw [hrest]; exact List.mem_cons_self)
    exact hbare.plainScalar? (token?_of_blank hc hrest htoken)

theorem Bare.run? (h : l.Bare) {fuel : Nat} {tokens : List Token}
    (hrun : Layout.run? fuel l = some tokens) :
    ∀ token ∈ tokens, ∃ text, token = .scalar true false text := by
  induction fuel generalizing l with
  | zero => cases hrun
  | succ fuel ih =>
    unfold Layout.run? at hrun
    split at hrun
    · cases hrun
    · next last hnext =>
      cases hrun
      intro token htoken
      exact (h.next? hnext).scalars token (List.mem_reverse.mp htoken)
    · next next hnext => exact ih (h.next? hnext) hrun

end Layout

/-- White space has plain scalars for tokens. -/
theorem tokens?_of_blank {text : List Char} (h : Text.Blank text)
    {tokens : List Token} (htokens : tokens? text = some tokens) :
    ∀ token ∈ tokens, ∃ text, token = .scalar true false text := by
  have hstart : (Cursor.start text).Blank := h
  have hmark : (skipMark (Cursor.start text)).Blank := by
    unfold skipMark
    split
    · exact hstart.skip 1
    · exact hstart
  unfold tokens? at htokens
  split at htokens
  · exact Layout.Bare.run? ⟨hmark, rfl, fun _ hnil => absurd hnil List.not_mem_nil⟩ htokens
  · cases htokens

namespace Stream

/-- A plain scalar in front is the whole document. -/
theorem ofTokens?_scalar {text : String} {tokens : List Token} {root : Node}
    (h : ofTokens? (.scalar true false text :: tokens) = some (.document root)) :
    root = .scalar none none true false text := by
  have hnode : ∀ fuel (s : Source), s.tokens = .scalar true false text :: tokens →
      takeNode (fuel + 1) .block s = some (.scalar none none true false text, s.advance) := by
    intro fuel s hs
    simp [takeNode, takeProperties?, hs, scalarNode]
  -- there are no directives, so that the tokens are those of one document
  have hcontent : (takeDocument? false [] (.scalar true false text :: tokens)).map document =
      some (document root) := h
  obtain ⟨node, hdocument, hroot⟩ := Option.map_eq_some_iff.mp hcontent
  cases hroot
  simp only [takeDocument?, Bool.false_and, Bool.false_eq_true, if_false,
    Option.bind_eq_bind] at hdocument
  obtain ⟨⟨node, rest⟩, htake, hdocument⟩ := Option.bind_eq_some_iff.mp hdocument
  rw [hnode _ _ rfl] at htake
  cases htake
  split at hdocument
  · cases hdocument
    rfl
  · cases hdocument

/-- White space is no mapping. -/
theorem not_mapping_of_blank {text : String} (h : Text.Blank text.toList)
    {anchor : Option Nat} {tag : Option String} {entries : List (Node × Node)} :
    ofText? text ≠ some (.document (.mapping anchor tag entries)) := by
  intro htext
  obtain ⟨tokens, htokens, hdocument⟩ := Option.bind_eq_some_iff.mp htext
  have hscalars := tokens?_of_blank h htokens
  rcases tokens with _ | ⟨token, tokens⟩
  · cases hdocument
  · obtain ⟨content, rfl⟩ := hscalars token List.mem_cons_self
    cases ofTokens?_scalar hdocument

end Stream

end SchemaMigration.Yaml
