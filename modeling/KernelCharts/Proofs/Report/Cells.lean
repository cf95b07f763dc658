import KernelCharts.Proofs.Text.Pieces
import KernelCharts.Report.Columns
import Mathlib.Data.List.Forall2

/-!
# Cells and how they are written

The same cell may be written in many ways: with blanks around it, and with percent signs.

* `Strewn`, `Strewn.filter_eq`, `strewn_filter` — a text with percent signs strewn in;
* `cleanCell` — what is read of a cell;
* `Written`, `Written.cleanCell_eq` — a cell as it may be written, and that it is told from this;
* `map_cleanCell_eq` — the same for a list of cells.
-/

namespace KernelCharts.Report

/-! ## Percent signs -/

/-- The second text is the first with percent signs strewn in. -/
inductive Strewn : List Char → List Char → Prop
  | nil : Strewn [] []
  | sign {text written : List Char} : Strewn text written → Strewn text ('%' :: written)
  | char (c : Char) {text written : List Char} : Strewn text written → Strewn (c :: text) (c :: written)

/-- **Percent signs that were strewn in are told from the text**, which has none of its own. -/
theorem Strewn.filter_eq {text written : List Char} (h : Strewn text written) (htext : '%' ∉ text) :
    written.filter (· ≠ '%') = text := by
  induction h with
  | nil => rfl
  | sign _ ih => rw [List.filter_cons_of_neg (by decide), ih htext]
  | char c _ ih =>
    rw [List.mem_cons, not_or] at htext
    rw [List.filter_cons_of_pos (by simpa using Ne.symm htext.1), ih htext.2]

theorem strewn_filter (written : List Char) : Strewn (written.filter (· ≠ '%')) written := by
  induction written with
  | nil => exact .nil
  | cons c written ih =>
    by_cases hc : c = '%'
    · subst hc
      rw [List.filter_cons_of_neg (by decide)]
      exact .sign ih
    · rw [List.filter_cons_of_pos (by simpa using hc)]
      exact .char c ih

theorem Strewn.refl (text : List Char) : Strewn text text := by
  induction text with
  | nil => exact .nil
  | cons c text ih => exact .char c ih

theorem Strewn.mem {text written : List Char} (h : Strewn text written) {c : Char} (hc : c ∈ written) :
    c = '%' ∨ c ∈ text := by
  induction h with
  | nil => exact .inr hc
  | sign _ ih => exact (List.mem_cons.1 hc).elim .inl ih
  | char d _ ih =>
    rcases List.mem_cons.1 hc with rfl | hc
    · exact .inr List.mem_cons_self
    · exact (ih hc).imp_right (List.mem_cons_of_mem d)

/-! ## Cells -/

/-- what is read of a cell: all but percent signs and the blanks around it -/
def cleanCell (cell : List Char) : List Char := Text.trim (cell.filter (· ≠ '%'))

/-- The cell is one that a row can hold: it has no bars and percent signs, and no blanks at its ends. -/
structure IsCell (cell : List Char) : Prop where
  bar : '|' ∉ cell
  sign : '%' ∉ cell
  head : ∀ c, cell.head? = some c → Text.isBlank c = false
  last : ∀ c, cell.getLast? = some c → Text.isBlank c = false

instance (cell : List Char) : Decidable (IsCell cell) :=
  decidable_of_iff (('|' ∉ cell ∧ '%' ∉ cell) ∧ cell.head?.all (!Text.isBlank ·) = true ∧
      cell.getLast?.all (!Text.isBlank ·) = true) <| by
    simp only [Option.all_eq_true, Bool.not_eq_true']
    exact ⟨fun h => ⟨h.1.1, h.1.2, h.2.1, h.2.2⟩, fun h => ⟨⟨h.bar, h.sign⟩, h.head, h.last⟩⟩

/-- The second text is the cell with blanks around it, and percent signs strewn in anywhere. -/
def Written (cell written : List Char) : Prop :=
  ∃ before after, Strewn (before ++ cell ++ after) written ∧
    (∀ c ∈ before, Text.isBlank c = true) ∧ ∀ c ∈ after, Text.isBlank c = true

namespace Written

variable {cell written : List Char}

theorem mem (h : Written cell written) {c : Char} (hc : c ∈ written) :
    c = '%' ∨ c ∈ cell ∨ Text.isBlank c = true := by
  obtain ⟨before, after, hstrewn, hbefore, hafter⟩ := h
  rcases hstrewn.mem hc with hsign | hc
  · exact .inl hsign
  · rcases List.mem_append.1 hc with hc | hc
    · rcases List.mem_append.1 hc with hc | hc
      · exact .inr (.inr (hbefore c hc))
      · exact .inr (.inl hc)
    · exact .inr (.inr (hafter c hc))

theorem bar_not_mem (h : Written cell written) (hcell : IsCell cell) : '|' ∉ written := by
  intro hbar
  rcases h.mem hbar with hsign | hmem | hblank
  · exact absurd hsign (by decide)
  · exact hcell.bar hmem
  · exact absurd hblank (by decide)

/-- **A cell is told from every way to write it.** -/
theorem cleanCell_eq (h : Written cell written) (hcell : IsCell cell) : cleanCell written = cell := by
  obtain ⟨before, after, hstrewn, hbefore, hafter⟩ := h
  have hsign : '%' ∉ before ++ cell ++ after := by
    simp only [List.mem_append, not_or]
    exact ⟨⟨fun hmem => absurd (hbefore _ hmem) (by decide), hcell.sign⟩,
      fun hmem => absurd (hafter _ hmem) (by decide)⟩
  rw [cleanCell, hstrewn.filter_eq hsign, Text.trim_pad hbefore hafter hcell.head hcell.last]

end Written

/-- Every text is a way to write what is read of it. -/
theorem written_cleanCell (written : List Char) : Written (cleanCell written) written := by
  obtain ⟨before, after, hwritten, hbefore, hafter⟩ :=
    Text.exists_padding Text.isBlank (written.filter (· ≠ '%'))
  refine ⟨before, after, ?_, hbefore, hafter⟩
  have hstrewn := strewn_filter written
  rwa [hwritten] at hstrewn

theorem map_cleanCell_eq {cells written : List (List Char)} (h : List.Forall₂ Written cells written)
    (hcells : ∀ cell ∈ cells, IsCell cell) : written.map cleanCell = cells := by
  induction h with
  | nil => rfl
  | cons hcell _ ih =>
    rw [List.forall_mem_cons] at hcells
    rw [List.map_cons, hcell.cleanCell_eq hcells.1, ih hcells.2]

theorem bar_not_mem_of_forall₂ {cells written : List (List Char)}
    (h : List.Forall₂ Written cells written) (hcells : ∀ cell ∈ cells, IsCell cell) :
    ∀ text ∈ written, '|' ∉ text := by
  induction h with
  | nil => simp
  | cons hcell _ ih =>
    rw [List.forall_mem_cons] at hcells
    exact List.forall_mem_cons.2 ⟨hcell.bar_not_mem hcells.1, ih hcells.2⟩

end KernelCharts.Report
