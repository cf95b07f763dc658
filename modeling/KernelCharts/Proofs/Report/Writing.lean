import KernelCharts.Proofs.Report.Row

/-!
# Ways to write a row

The same row may be written in many ways: with blanks around its cells, with percent signs after the
numbers, with the line indented, and with or without a bar behind the last cell.

* `WrittenRow` — a row as it may be written;
* `splitRow_rowLine_append` — the cells of a line whose last cell no bar closes;
* `splitRow_of_writtenRow` — a row is told from every way to write it.
-/

namespace KernelCharts.Report

/-- The row is written with a bar before its first cell and between all of its cells, with blanks around
the line. A bar may close the last cell; where none does, the last cell is not empty. -/
inductive WrittenRow : List (List Char) → List Char → Prop
  | closed {cells written : List (List Char)} {indent trailing : List Char}
      (hindent : ∀ c ∈ indent, Text.isBlank c = true) (htrailing : ∀ c ∈ trailing, Text.isBlank c = true)
      (hcells : List.Forall₂ Written cells written) :
      WrittenRow cells (indent ++ rowLine written ++ trailing)
  | unclosed {cells written : List (List Char)} {cell last indent trailing : List Char}
      (hindent : ∀ c ∈ indent, Text.isBlank c = true) (htrailing : ∀ c ∈ trailing, Text.isBlank c = true)
      (hcells : List.Forall₂ Written cells written) (hlast : Written cell last) (hne : cell ≠ []) :
      WrittenRow (cells ++ [cell]) (indent ++ (rowLine written ++ last) ++ trailing)

theorem splitRow_append_blanks {indent trailing : List Char}
    (hindent : ∀ c ∈ indent, Text.isBlank c = true) (htrailing : ∀ c ∈ trailing, Text.isBlank c = true)
    (line : List Char) : splitRow (indent ++ line ++ trailing) = splitRow line := by
  rw [splitRow, Text.trim_append_blanks hindent htrailing, splitRow]

/-- The blanks at the end of a line without a closing bar are not part of its last cell. -/
theorem cleanCell_trimEnd (cell : List Char) : cleanCell (Text.trimEnd cell) = cleanCell cell := by
  obtain ⟨after, hcell, hafter⟩ := Text.exists_trimEnd cell
  have hblanks : ∀ c ∈ after.filter (· ≠ '%'), Text.isBlank c = true :=
    fun c hc => hafter c (List.mem_filter.1 hc).1
  have hclean : cleanCell cell =
      Text.trim ((Text.trimEnd cell).filter (· ≠ '%') ++ after.filter (· ≠ '%')) := by
    rw [cleanCell, ← List.filter_append, ← hcell]
  rw [hclean, ← List.nil_append (List.filter _ (Text.trimEnd cell)),
    Text.trim_append_blanks (by simp) hblanks, cleanCell]

/-- **The cells of a line whose last cell no bar closes** are the cells that were put together. -/
theorem splitRow_rowLine_append {cells : List (List Char)} {last : List Char}
    (hcells : ∀ cell ∈ cells, '|' ∉ cell) (hbar : '|' ∉ last) (hne : Text.trimEnd last ≠ []) :
    splitRow (rowLine cells ++ last) = (cells ++ [last]).map cleanCell := by
  have hstart : Text.trimStart (rowLine cells ++ last) = rowLine cells ++ last :=
    Text.trimStart_eq_self fun c hc => by cases hc; decide
  have htrim : Text.trim (rowLine cells ++ last) = rowLine cells ++ Text.trimEnd last := by
    rw [Text.trim, hstart, Text.trimEnd_append_of_ne_nil hne]
  have hlast : '|' ∉ Text.trimEnd last := by
    intro hmem
    rw [Text.trimEnd, List.mem_reverse] at hmem
    exact hbar (List.mem_reverse.1 ((List.dropWhile_sublist _).subset hmem))
  -- the line ends in a character of the last cell, so that no bar is taken off
  have hend : (cells.flatMap (· ++ ['|']) ++ Text.trimEnd last).getLast? ≠ some '|' := by
    rw [List.getLast?_append_of_ne_nil _ hne]
    exact fun h => hlast (List.mem_of_getLast? h)
  have hinner : Text.dropLast '|' (Text.dropFirst '|' (rowLine cells ++ Text.trimEnd last)) =
      cells.flatMap (· ++ ['|']) ++ Text.trimEnd last := by
    rw [rowLine, List.cons_append, Text.dropFirst, if_pos rfl, Text.dropLast_eq_self hend]
  rw [splitRow, htrim, hinner, Text.fields_flatMap_append hcells, Text.fields_of_not_mem hlast,
    List.map_append, List.map_append, List.map_singleton, List.map_singleton, ← cleanCell_trimEnd last]
  rfl

/-- **A row is told from every way to write it**, with its empty cells and the places of all cells. -/
theorem splitRow_of_writtenRow {cells : List (List Char)} {line : List Char} (hne : cells ≠ [])
    (hcells : ∀ cell ∈ cells, IsCell cell) (h : WrittenRow cells line) : splitRow line = cells := by
  cases h with
  | @closed _ written _ _ hindent htrailing hwritten =>
    have hwritten' : written ≠ [] := by
      rintro rfl
      exact hne (List.forall₂_nil_right_iff.1 hwritten)
    rw [splitRow_append_blanks hindent htrailing,
      splitRow_rowLine hwritten' (bar_not_mem_of_forall₂ hwritten hcells), map_cleanCell_eq hwritten hcells]
  | @unclosed first written cell last _ _ hindent htrailing hwritten hlast hcell =>
    have hfirst : ∀ cell ∈ first, IsCell cell := fun c hc => hcells c (List.mem_append_left _ hc)
    have hcell' : IsCell cell := hcells cell (by simp)
    have htrim : Text.trimEnd last ≠ [] := by
      intro hnil
      have hclean := cleanCell_trimEnd last
      rw [hnil, hlast.cleanCell_eq hcell'] at hclean
      exact hcell hclean.symm
    rw [splitRow_append_blanks hindent htrailing, splitRow_rowLine_append
      (bar_not_mem_of_forall₂ hwritten hfirst) (hlast.bar_not_mem hcell') htrim, List.map_append,
      map_cleanCell_eq hwritten hfirst, List.map_singleton, hlast.cleanCell_eq hcell']

/-- a row with empty cells at both ends and in between -/
def sparseRow : List (List Char) := [[], "99.5".toList, [], "a b".toList, []]

def sparseTexts : List (List Char) := ["% ".toList, " 9%9.5 %".toList, "\t".toList, "a b".toList, []]

theorem splitRow_of_writtenRow_sparse :
    sparseRow ≠ [] ∧ (∀ cell ∈ sparseRow, IsCell cell) ∧
      WrittenRow sparseRow "\u2003|% | 9%9.5 %|\t|a b|| ".toList ∧
      splitRow "\u2003|% | 9%9.5 %|\t|a b|| ".toList = sparseRow := by
  have hne : sparseRow ≠ [] := by decide
  have hcells : ∀ cell ∈ sparseRow, IsCell cell := by decide
  have hwritten : List.Forall₂ Written (sparseTexts.map cleanCell) sparseTexts :=
    List.forall₂_map_left_iff.2 (List.forall₂_same.2 fun written _ => written_cleanCell written)
  have hread : sparseTexts.map cleanCell = sparseRow := by decide
  have hline : "\u2003".toList ++ rowLine sparseTexts ++ " ".toList =
      "\u2003|% | 9%9.5 %|\t|a b|| ".toList := by decide
  have hrow : WrittenRow sparseRow "\u2003|% | 9%9.5 %|\t|a b|| ".toList := by
    rw [hread] at hwritten
    rw [← hline]
    exact .closed (List.all_eq_true.1 (by decide)) (List.all_eq_true.1 (by decide)) hwritten
  exact ⟨hne, hcells, hrow, splitRow_of_writtenRow hne hcells hrow⟩

end KernelCharts.Report
