import Mathlib.Algebra.Ring.Nat
import Mathlib.Data.List.Forall2
import Mathlib.Data.String.Basic
import SchemaMigration.Proofs.Text.Pieces
import SchemaMigration.Text.Columns

/-!
# Tables are aligned

The width of a column is a number of bytes, and cells are filled up to that number of characters.
This aligns the columns, as a text never has more characters than bytes, and every cell that is
shown has been counted.

* `Fits`: the cells of a line have room in their columns.
* `drop_joinCells`: behind some columns, a line goes on like the line of the others.
* `Aligned`: a line in which every cell stands in its column.
* `table_aligned`: the lines of a table.
-/

namespace SchemaMigration.Text

/-! ## Widths -/

/-- No cell that has a column has more characters than the column is wide. -/
def Fits (ws : List Nat) (cells : List String) : Prop :=
  ∀ p ∈ cells.zip ws, p.1.toList.length ≤ p.2

theorem length_le_utf8ByteSize (s : String) : s.toList.length ≤ s.utf8ByteSize := by
  rw [← String.utf8Len_toList]
  induction s.toList with
  | nil => exact Nat.le_refl 0
  | cons c cs ih =>
      have hpos := c.utf8Size_pos
      rw [List.length_cons, String.utf8Len_cons]
      omega

theorem length_widen (ws : List Nat) (cells : List String) :
    (widen ws cells).length = ws.length := by
  fun_induction widen ws cells with
  | case1 w ws cell cells ih => simp [ih]
  | case2 => rfl

theorem fits_nil (ws : List Nat) : Fits ws [] := by simp [Fits]

theorem fits_cons_iff {w : Nat} {ws : List Nat} {cell : String} {cells : List String} :
    Fits (w :: ws) (cell :: cells) ↔ cell.toList.length ≤ w ∧ Fits ws cells := by
  simp [Fits]

theorem fits_widen (ws : List Nat) (cells : List String) : Fits (widen ws cells) cells := by
  fun_induction widen ws cells with
  | case1 w ws cell cells ih =>
      exact fits_cons_iff.mpr ⟨(length_le_utf8ByteSize cell).trans (Nat.le_max_right ..), ih⟩
  | case2 ws cells hnot =>
      cases ws with
      | nil => simp [Fits]
      | cons w ws =>
          cases cells with
          | nil => exact fits_nil _
          | cons cell cells => exact absurd rfl (hnot w ws cell cells rfl)

/-- Wider columns have room for what had room before. -/
theorem Fits.widen {ws : List Nat} {cells : List String} (h : Fits ws cells)
    (others : List String) : Fits (widen ws others) cells := by
  fun_induction Text.widen ws others generalizing cells with
  | case1 w ws other others ih =>
      cases cells with
      | nil => exact fits_nil _
      | cons cell cells =>
          obtain ⟨hcell, hcells⟩ := fits_cons_iff.mp h
          exact fits_cons_iff.mpr ⟨hcell.trans (Nat.le_max_left ..), ih hcells⟩
  | case2 => exact h

theorem length_foldl_widen (ws : List Nat) (rows : List (List String)) :
    (rows.foldl widen ws).length = ws.length := by
  induction rows generalizing ws with
  | nil => rfl
  | cons row rows ih => rw [List.foldl_cons, ih, length_widen]

theorem Fits.foldl_widen {ws : List Nat} {cells : List String} (h : Fits ws cells)
    (rows : List (List String)) : Fits (rows.foldl Text.widen ws) cells := by
  induction rows generalizing ws with
  | nil => exact h
  | cons row rows ih => exact ih (h.widen row)

theorem fits_foldl_widen {ws : List Nat} {rows : List (List String)} {row : List String}
    (h : row ∈ rows) : Fits (rows.foldl widen ws) row := by
  induction rows generalizing ws with
  | nil => cases h
  | cons first rows ih =>
      rcases List.mem_cons.mp h with rfl | h
      · exact (fits_widen ws row).foldl_widen rows
      · exact ih h

theorem fits_map_utf8ByteSize (cells : List String) :
    Fits (cells.map String.utf8ByteSize) cells := by
  induction cells with
  | nil => exact fits_nil _
  | cons cell cells ih => exact fits_cons_iff.mpr ⟨length_le_utf8ByteSize cell, ih⟩

/-- There is one width for each header. -/
theorem length_widths (headers : List String) (rows : List (List String)) :
    (widths headers rows).length = headers.length := by
  rw [widths, length_foldl_widen, List.length_map]

/-- The columns of a table have room for its headers and for all its rows. -/
theorem fits_widths (headers : List String) (rows : List (List String)) :
    ∀ cells ∈ headers :: rows, Fits (widths headers rows) cells := by
  intro cells hcells
  rcases List.mem_cons.mp hcells with rfl | hrow
  · exact (fits_map_utf8ByteSize cells).foldl_widen rows
  · exact fits_foldl_widen hrow

/-! ## Lines -/

/-- Where a column begins: behind the ones before it, with two spaces after each of them. -/
def columnStart (ws : List Nat) (j : Nat) : Nat :=
  ((ws.take j).map (· + 2)).sum

@[simp] theorem columnStart_zero (ws : List Nat) : columnStart ws 0 = 0 := rfl

@[simp] theorem columnStart_nil (j : Nat) : columnStart [] j = 0 := by simp [columnStart]

@[simp] theorem columnStart_cons_succ (w : Nat) (ws : List Nat) (j : Nat) :
    columnStart (w :: ws) (j + 1) = w + 2 + columnStart ws j := rfl

theorem columnStart_succ {ws : List Nat} {j w : Nat} (h : ws[j]? = some w) :
    columnStart ws (j + 1) = columnStart ws j + (w + 2) := by
  simp [columnStart, List.take_add_one, h]

/-- What comes behind the first cell: two spaces and the other ones, if there are any. -/
def restOfLine (ws : List Nat) (cells : List String) : List Char :=
  if cells.zip ws = [] then [] else ' ' :: ' ' :: joinCells ws cells

theorem joinCells_cons (w : Nat) (ws : List Nat) (cell : String) (cells : List String) :
    joinCells (w :: ws) (cell :: cells) = fill w cell.toList ++ restOfLine ws cells := by
  rcases hzip : cells.zip ws with _ | ⟨p, ps⟩
  · simp [joinCells, restOfLine, hzip]
  · simp [joinCells, restOfLine, hzip]

theorem restOfLine_cons (w : Nat) (ws : List Nat) (cell : String) (cells : List String) :
    restOfLine (w :: ws) (cell :: cells) = ' ' :: ' ' :: joinCells (w :: ws) (cell :: cells) := rfl

theorem length_fill {w : Nat} {cell : List Char} (h : cell.length ≤ w) :
    (fill w cell).length = w := by
  simp [fill, h]

theorem joinCells_nil_left (cells : List String) : joinCells [] cells = [] := by
  simp [joinCells]

theorem joinCells_nil_right (ws : List Nat) : joinCells ws [] = [] := by
  simp [joinCells]

theorem drop_two_restOfLine (ws : List Nat) (cells : List String) :
    (restOfLine ws cells).drop 2 = joinCells ws cells := by
  unfold restOfLine
  split
  · next hzip => simp [joinCells, hzip]
  · rfl

theorem length_restOfLine {ws : List Nat} {cells : List String} (h : Fits ws cells) :
    (restOfLine ws cells).length = columnStart ws (min cells.length ws.length) := by
  induction ws generalizing cells with
  | nil => simp [restOfLine]
  | cons w ws ih =>
      cases cells with
      | nil => simp [restOfLine]
      | cons cell cells =>
          obtain ⟨hcell, hcells⟩ := fits_cons_iff.mp h
          rw [restOfLine_cons, joinCells_cons, List.length_cons, List.length_cons,
            List.length_append, length_fill hcell, ih hcells, List.length_cons, List.length_cons,
            Nat.add_min_add_right, columnStart_cons_succ]
          omega

/-- Behind some columns, a line goes on like the line of the other ones. -/
theorem drop_joinCells {ws : List Nat} {cells : List String} (h : Fits ws cells) (j : Nat) :
    (joinCells ws cells).drop (columnStart ws j) = joinCells (ws.drop j) (cells.drop j) := by
  induction j generalizing ws cells with
  | zero => simp
  | succ j ih =>
      cases ws with
      | nil => simp [joinCells_nil_left]
      | cons w ws =>
          cases cells with
          | nil => simp [joinCells_nil_right]
          | cons cell cells =>
              obtain ⟨hcell, hcells⟩ := fits_cons_iff.mp h
              have hfill := length_fill hcell
              rw [joinCells_cons, columnStart_cons_succ, Nat.add_assoc, ← List.drop_drop,
                List.drop_left' hfill, ← List.drop_drop, drop_two_restOfLine, ih hcells]
              rfl

/-! ## Aligned lines -/

/-- A line, before the blanks at its end are trimmed, in which cells stand in columns of some
widths. -/
structure Aligned (ws : List Nat) (cells : List String) (text : List Char) : Prop where
  /-- No cell is wider than its column. -/
  fits : Fits ws cells
  /-- A cell that has a column is shown whole, and it begins where the column begins. -/
  shown : ∀ j cell, j < ws.length → cells[j]? = some cell →
    cell.toList <+: text.drop (columnStart ws j)
  /-- Behind it there is nothing but spaces up to the next column. -/
  spaced : ∀ j cell, j < ws.length → cells[j]? = some cell → ∀ p c, text[p]? = some c →
    columnStart ws j + cell.toList.length ≤ p → p < columnStart ws (j + 1) → c = ' '
  /-- The line ends with the last column that has a cell. -/
  ends : text.length = columnStart ws (min cells.length ws.length) - 2

theorem ends_joinCells {ws : List Nat} {cells : List String} (h : Fits ws cells) :
    (joinCells ws cells).length = columnStart ws (min cells.length ws.length) - 2 := by
  rw [← length_restOfLine h, ← drop_two_restOfLine, List.length_drop]

/-- What follows a cell begins with two spaces. -/
theorem space_of_restOfLine {ws : List Nat} {cells : List String} {i : Nat} {c : Char} (hi : i < 2)
    (h : (restOfLine ws cells)[i]? = some c) : c = ' ' := by
  unfold restOfLine at h
  split at h
  · simp at h
  · rcases i with _ | _ | i
    · simpa [eq_comm] using h
    · simpa [eq_comm] using h
    · omega

/-- A cell is followed by spaces up to the width of its column, and by two more. -/
theorem space_behind {w i : Nat} {ws : List Nat} {cell : String} {cells : List String} {c : Char}
    (hcell : cell.toList.length ≤ w) (hbehind : cell.toList.length ≤ i) (hi : i < w + 2)
    (h : (joinCells (w :: ws) (cell :: cells))[i]? = some c) : c = ' ' := by
  rw [joinCells_cons] at h
  by_cases hfill : i < w
  · rw [List.getElem?_append_left (by rwa [length_fill hcell]), fill,
      List.getElem?_append_right hbehind] at h
    exact List.eq_of_mem_replicate (List.mem_of_getElem? h)
  · rw [List.getElem?_append_right (by rw [length_fill hcell]; omega), length_fill hcell] at h
    exact space_of_restOfLine (by omega) h

/-- The line that is made of some cells shows them in their columns. -/
theorem aligned_joinCells {ws : List Nat} {cells : List String} (h : Fits ws cells) :
    Aligned ws cells (joinCells ws cells) := by
  -- from the start of a column, the line is that of its cell and those behind it
  have hfrom : ∀ j cell, j < ws.length → cells[j]? = some cell → ∃ w, ws[j]? = some w ∧
      cell.toList.length ≤ w ∧ (joinCells ws cells).drop (columnStart ws j) =
        joinCells (w :: ws.drop (j + 1)) (cell :: cells.drop (j + 1)) := by
    intro j cell hj hcell
    obtain ⟨hj', rfl⟩ := List.getElem?_eq_some_iff.mp hcell
    have hmem : (cells[j], ws[j]) ∈ cells.zip ws := by
      rw [← List.getElem_zip (h := by simp; omega)]
      exact List.getElem_mem _
    refine ⟨ws[j], List.getElem?_eq_getElem hj, h _ hmem, ?_⟩
    rw [drop_joinCells h, List.drop_eq_getElem_cons hj, List.drop_eq_getElem_cons hj']
  refine ⟨h, ?_, ?_, ends_joinCells h⟩
  · intro j cell hj hcell
    obtain ⟨w, -, -, hline⟩ := hfrom j cell hj hcell
    rw [hline, joinCells_cons, fill, List.append_assoc]
    exact List.prefix_append ..
  · intro j cell hj hcell p c hp hbehind hnext
    obtain ⟨w, hw, hfits, hline⟩ := hfrom j cell hj hcell
    rw [columnStart_succ hw] at hnext
    apply space_behind (i := p - columnStart ws j) hfits (by omega) (by omega)
    rw [← hline, List.getElem?_drop, Nat.add_sub_cancel' (by omega)]
    exact hp

theorem mem_joinCells {ws : List Nat} {cells : List String} {c : Char}
    (h : c ∈ joinCells ws cells) : c = ' ' ∨ ∃ cell ∈ cells, c ∈ cell.toList := by
  induction ws generalizing cells with
  | nil => simp [joinCells_nil_left] at h
  | cons w ws ih =>
      cases cells with
      | nil => simp [joinCells_nil_right] at h
      | cons cell cells =>
          rw [joinCells_cons, fill, List.mem_append, List.mem_append] at h
          rcases h with (h | h) | h
          · exact .inr ⟨cell, List.mem_cons_self, h⟩
          · exact .inl (List.eq_of_mem_replicate h)
          · unfold restOfLine at h
            split at h
            · cases h
            · simp only [List.mem_cons] at h
              rcases h with h | h | h
              · exact .inl h
              · exact .inl h
              · rcases ih h with h | ⟨other, hother, hmem⟩
                · exact .inl h
                · exact .inr ⟨other, List.mem_cons_of_mem _ hother, hmem⟩

/-! ## Tables -/

/-- As many dashes as a column is wide. -/
def dashes (w : Nat) : String :=
  String.ofList (List.replicate w '-')

theorem toList_dashes (w : Nat) : (dashes w).toList = List.replicate w '-' :=
  String.toList_ofList

theorem fits_dashes (ws : List Nat) : Fits ws (ws.map dashes) := by
  induction ws with
  | nil => exact fits_nil _
  | cons w ws ih => exact fits_cons_iff.mpr ⟨by simp [toList_dashes], ih⟩

/-- The line under the headers is a line like the others, with dashes as cells. -/
theorem toList_rule (ws : List Nat) : (rule ws).toList = joinCells ws (ws.map dashes) := by
  rw [rule, String.toList_ofList, joinCells]
  congr 1
  induction ws with
  | nil => rfl
  | cons w ws ih => simp [ih, fill, toList_dashes]

theorem mem_of_mem_trimEnd {text : List Char} {c : Char} (h : c ∈ trimEnd text) : c ∈ text := by
  obtain ⟨back, hsplit, -⟩ := exists_trimEnd text
  rw [hsplit]
  exact List.mem_append_left back h

theorem toList_line (ws : List Nat) (cells : List String) :
    (line ws cells).toList = trimEnd (joinCells ws cells) :=
  String.toList_ofList

theorem not_mem_joinCells {ws : List Nat} {cells : List String}
    (h : ∀ cell ∈ cells, '\n' ∉ cell.toList) : '\n' ∉ joinCells ws cells := by
  intro hmem
  rcases mem_joinCells hmem with hspace | ⟨cell, hcell, hbreak⟩
  · exact absurd hspace (by decide)
  · exact h cell hcell hbreak

/-- A table without line breaks in its cells falls into its lines at the line breaks. -/
theorem splitOn_table {headers : List String} {rows : List (List String)}
    (h : ∀ cells ∈ headers :: rows, ∀ cell ∈ cells, '\n' ∉ cell.toList) :
    (table headers rows).toList.splitOn '\n' = (tableLines headers rows).map String.toList := by
  rw [table, String.toList_intercalate]
  refine List.splitOn_intercalate '\n' ?_ (by simp [tableLines])
  have hline : ∀ cells ∈ headers :: rows, '\n' ∉ (line (widths headers rows) cells).toList := by
    intro cells hcells hmem
    rw [toList_line] at hmem
    exact not_mem_joinCells (h cells hcells) (mem_of_mem_trimEnd hmem)
  have hrule : '\n' ∉ (rule (widths headers rows)).toList := by
    rw [toList_rule]
    refine not_mem_joinCells fun cell hcell hmem => ?_
    obtain ⟨w, -, rfl⟩ := List.mem_map.mp hcell
    rw [toList_dashes] at hmem
    exact absurd (List.eq_of_mem_replicate hmem) (by decide)
  obtain ⟨htop, hrows⟩ := List.forall_mem_cons.mp hline
  simpa [tableLines, hrule, htop] using hrows

/-- **Tables are aligned.** Whatever characters the cells are made of, as long as none is a line
break, the lines of a table are one for the headers, one of dashes, and one for each row, in order.
There is one width for each header. In every line, before the blanks at its end are trimmed, each
cell that has a column is shown whole at the start of its column and followed by spaces only; the
line ends with the last column that has a cell. Under each header there are as many dashes as the
column is wide. -/
theorem table_aligned (headers : List String) (rows : List (List String))
    (h : ∀ cells ∈ headers :: rows, ∀ cell ∈ cells, '\n' ∉ cell.toList) :
    let ws := widths headers rows
    ws.length = headers.length ∧ ∃ top middle bodies,
      (table headers rows).toList.splitOn '\n' = trimEnd top :: middle :: bodies.map trimEnd ∧
      Aligned ws headers top ∧ Aligned ws (ws.map dashes) middle ∧
      List.Forall₂ (Aligned ws) rows bodies := by
  intro ws
  obtain ⟨hheaders, hrows⟩ := List.forall_mem_cons.mp (fits_widths headers rows)
  refine ⟨length_widths headers rows, joinCells ws headers, joinCells ws (ws.map dashes),
    rows.map (joinCells ws), ?_, aligned_joinCells hheaders, aligned_joinCells (fits_dashes ws), ?_⟩
  · rw [splitOn_table h]
    simp [ws, tableLines, toList_line, toList_rule]
  · rw [List.forall₂_map_right_iff, List.forall₂_same]
    exact fun row hrow => aligned_joinCells (hrows row hrow)

namespace Sample

/-- Headers, one of them with characters of several bytes. -/
def headers : List String := ["VERSION", "名前"]

/-- A row for every header, one with a cell too many, and one with a cell too few. -/
def ragged : List (List String) := [["v001", "größe\u3000"], ["v002", "b", "c"], ["v0003"]]

end Sample

/-- The columns begin at the characters 0 and 9, and only blanks at the end of a line are lost. -/
theorem table_aligned_sample :
    (∀ cells ∈ Sample.headers :: Sample.ragged, ∀ cell ∈ cells, '\n' ∉ cell.toList) ∧
      widths Sample.headers Sample.ragged = [7, 10] ∧ columnStart [7, 10] 1 = 9 ∧
      table Sample.headers Sample.ragged = "VERSION  名前\n-------  ----------\n" ++
        "v001     größe\nv002     b\nv0003" ∧
      ∃ top middle bodies,
        (table Sample.headers Sample.ragged).toList.splitOn '\n' =
          trimEnd top :: middle :: bodies.map trimEnd ∧
        Aligned [7, 10] Sample.headers top ∧ middle.length = 19 ∧
        List.Forall₂ (Aligned [7, 10]) Sample.ragged bodies := by
  have hbreaks : ∀ cells ∈ Sample.headers :: Sample.ragged, ∀ cell ∈ cells,
      '\n' ∉ cell.toList := by decide
  have hwidths : widths Sample.headers Sample.ragged = [7, 10] := by decide +kernel
  obtain ⟨-, top, middle, bodies, hlines, htop, hmiddle, hbodies⟩ :=
    table_aligned Sample.headers Sample.ragged hbreaks
  rw [hwidths] at htop hmiddle hbodies
  refine ⟨hbreaks, hwidths, rfl, by decide +kernel, top, middle, bodies, hlines, htop, ?_, hbodies⟩
  exact hmiddle.ends

end SchemaMigration.Text
