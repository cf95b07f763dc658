import KernelCharts.Proofs.Extraction.Cell
import KernelCharts.Proofs.Report.Cells

/-!
# Rows of cells

* `rowLine`, `splitRow_rowLine` — cells between bars, and how they are taken apart;
* `Shows`, `Shows.cleanCell_eq` — a cell with blanks around its text;
* `readThroughput_of_shows` — the throughput that a cell shows;
* `Columns.readRow_eq_ok_iff` — when a row is an observation, and which;
* `Columns.source_of_readRow` — a row keeps the matrix that it is read for.
-/

namespace KernelCharts

namespace Report

/-! ## Cells -/

def isPadding (c : Char) : Bool := Text.isBlank c && c ≠ '\n'

/-- The cell has a text with blanks around it. -/
def Shows (cell text : List Char) : Prop :=
  ∃ before after, cell = before ++ text ++ after ∧ (∀ c ∈ before, isPadding c = true) ∧
    ∀ c ∈ after, isPadding c = true

/-- a character that is read as it stands, wherever it stands in a cell -/
def isCellChar (c : Char) : Bool := !(Text.isBlank c || c = '%' || c = '|')

theorem not_isBlank_of_isCellChar {c : Char} (h : isCellChar c = true) : Text.isBlank c = false := by
  simp only [isCellChar, Bool.not_eq_true', Bool.or_eq_false_iff] at h
  exact h.1.1

theorem isCell_of_isCellChar {text : List Char} (h : ∀ c ∈ text, isCellChar c = true) : IsCell text where
  bar hbar := absurd (h _ hbar) (by decide)
  sign hsign := absurd (h _ hsign) (by decide)
  head c hc := not_isBlank_of_isCellChar (h c (List.mem_of_mem_head? hc))
  last c hc := not_isBlank_of_isCellChar (h c (List.mem_of_mem_getLast? hc))

theorem isCellChar_of_isAlphanumeric {c : Char} (h : Text.isAlphanumeric c = true) :
    isCellChar c = true := by
  have hblank := Text.isBlank_of_isAlphanumeric h
  have hpercent : c ≠ '%' := Text.ne_of_isAlphanumeric h (by decide)
  have hbar : c ≠ '|' := Text.ne_of_isAlphanumeric h (by decide)
  simp [isCellChar, hblank, hpercent, hbar]

theorem isCellChar_of_isNumeralChar {c : Char} (h : Number.isNumeralChar c = true) :
    isCellChar c = true := by
  simp only [Number.isNumeralChar, Bool.or_eq_true, decide_eq_true_eq] at h
  rcases h with ((h | rfl) | rfl) | rfl
  · exact isCellChar_of_isAlphanumeric h
  · decide
  · decide
  · decide

theorem isBlank_of_isPadding {c : Char} (h : isPadding c = true) : Text.isBlank c = true :=
  (Bool.and_eq_true_iff.1 h).1

/-- The cell has no bar and no line feed. -/
structure Fits (cell : List Char) : Prop where
  bar : '|' ∉ cell
  lineFeed : '\n' ∉ cell

namespace Shows

variable {cell text : List Char}

theorem mem (h : Shows cell text) {c : Char} (hc : c ∈ cell) : isPadding c = true ∨ c ∈ text := by
  obtain ⟨before, after, rfl, hbefore, hafter⟩ := h
  rcases List.mem_append.1 hc with hc | hc
  · exact (List.mem_append.1 hc).imp_left (hbefore c)
  · exact .inl (hafter c hc)

theorem written (h : Shows cell text) : Written text cell := by
  obtain ⟨before, after, rfl, hbefore, hafter⟩ := h
  exact ⟨before, after, .refl _, fun c hc => isBlank_of_isPadding (hbefore c hc),
    fun c hc => isBlank_of_isPadding (hafter c hc)⟩

theorem fits (h : Shows cell text) (htext : ∀ c ∈ text, isCellChar c = true) : Fits cell where
  bar := h.written.bar_not_mem (isCell_of_isCellChar htext)
  lineFeed hc := by
    rcases h.mem hc with hpadding | hmem
    · exact absurd hpadding (by decide)
    · exact absurd (htext _ hmem) (by decide)

/-- **A cell is read as the text that it shows.** -/
theorem cleanCell_eq (h : Shows cell text) (htext : ∀ c ∈ text, isCellChar c = true) :
    cleanCell cell = text :=
  h.written.cleanCell_eq (isCell_of_isCellChar htext)

end Shows

/-! ## Lines -/

def rowLine (cells : List (List Char)) : List Char := '|' :: cells.flatMap (· ++ ['|'])

theorem flatMap_bar {cells : List (List Char)} (hne : cells ≠ []) :
    cells.flatMap (· ++ ['|']) = ['|'].intercalate cells ++ ['|'] := by
  induction cells with
  | nil => exact absurd rfl hne
  | cons cell cells ih =>
    cases cells with
    | nil => rw [List.intercalate_singleton, List.flatMap_singleton]
    | cons next cells =>
      rw [List.flatMap_cons, ih (List.cons_ne_nil _ _), List.intercalate_cons_cons]
      simp only [List.append_assoc]

theorem rowLine_eq {cells : List (List Char)} (hne : cells ≠ []) :
    rowLine cells = '|' :: (['|'].intercalate cells ++ ['|']) := by
  rw [rowLine, flatMap_bar hne]

/-- **The cells of a line are the cells that were put together.** -/
theorem splitRow_rowLine {cells : List (List Char)} (hne : cells ≠ []) (h : ∀ cell ∈ cells, '|' ∉ cell) :
    splitRow (rowLine cells) = cells.map cleanCell := by
  have htrim : Text.trim (rowLine cells) = rowLine cells := by
    have hstart : Text.trimStart (rowLine cells) = rowLine cells :=
      Text.trimStart_eq_self fun c hc => by cases hc; decide
    rw [Text.trim, hstart, rowLine_eq hne]
    refine Text.trimEnd_eq_self fun c hc => ?_
    rw [← List.cons_append, List.getLast?_concat, Option.some.injEq] at hc
    subst hc
    decide
  have hinner : Text.dropLast '|' (Text.dropFirst '|' (rowLine cells)) = ['|'].intercalate cells := by
    rw [rowLine_eq hne, Text.dropFirst, if_pos rfl, Text.dropLast_concat, if_pos rfl]
  rw [splitRow, htrim, hinner, Text.fields_intercalate hne h]
  rfl

theorem lineFeed_not_mem_rowLine {cells : List (List Char)} (h : ∀ cell ∈ cells, '\n' ∉ cell) :
    '\n' ∉ rowLine cells := by
  intro hmem
  rcases List.mem_cons.1 hmem with hbar | hmem
  · cases hbar
  · obtain ⟨cell, hcell, hmem⟩ := List.mem_flatMap.1 hmem
    rcases List.mem_append.1 hmem with hmem | hbar
    · exact h cell hcell hmem
    · cases List.mem_singleton.1 hbar

theorem getLast?_rowLine (cells : List (List Char)) : (rowLine cells).getLast? = some '|' := by
  by_cases hne : cells = []
  · rw [hne]; rfl
  · rw [rowLine_eq hne, ← List.cons_append, List.getLast?_concat]

/-! ## Throughputs -/

/-- The cell shows a throughput: a text that stands for it, or none if the kernel was not measured. -/
def ShowsThroughput (cell : List Char) : Option Float → Prop
  | none => Shows cell []
  | some x => ∃ text, Shows cell text ∧ throughput? text = some x

theorem isCellChar_of_throughput? {text : List Char} {x : Float} (h : throughput? text = some x) :
    ∀ c ∈ text, isCellChar c = true := by
  obtain ⟨n, hn⟩ := exists_numeral_of_throughput? h
  exact fun c hc => isCellChar_of_isNumeralChar (Number.Numeral.isNumeralChar_of_read? hn c hc)

theorem ShowsThroughput.fits {cell : List Char} {gflops : Option Float}
    (h : ShowsThroughput cell gflops) : Fits cell := by
  cases gflops with
  | none => exact Shows.fits h (by simp)
  | some x =>
    obtain ⟨text, hshows, hx⟩ := h
    exact hshows.fits (isCellChar_of_throughput? hx)

/-- **A throughput is read as its cell shows it.** -/
theorem readThroughput_of_shows {cell : List Char} {gflops : Option Float}
    (h : ShowsThroughput cell gflops) (column : String) :
    readThroughput column (cleanCell cell) = .ok gflops := by
  have hstates : StatesThroughput (cleanCell cell) gflops := by
    cases gflops with
    | none => exact Shows.cleanCell_eq h (by simp)
    | some x =>
      obtain ⟨text, hshows, hx⟩ := h
      rw [hshows.cleanCell_eq (isCellChar_of_throughput? hx)]
      exact hx
  exact hstates.readThroughput_eq column

end Report

/-! ## Observations -/

namespace Report.Columns

/-- **When a row is an observation, and which.** -/
theorem readRow_eq_ok_iff {columns : Columns} {source : String} {cells : List (List Char)}
    {row : Observation Float} : columns.readRow source cells = .ok row ↔
      columns.minCells ≤ cells.length ∧ ∃ nnz k,
        Number.count? nnzLimit (cells.getD columns.nnz []) = some nnz ∧
        Number.count? widthLimit (cells.getD columns.k []) = some k ∧
        readThroughputs (columns.throughput.map fun column => (column.1, cells.getD column.2 []))
          ⟨source, nnz, some k, ∅⟩ = .ok row := by
  unfold readRow readCount
  by_cases hshort : cells.length < columns.minCells
  · rw [if_pos hshort]
    constructor
    · rintro ⟨⟩
    · rintro ⟨hlong, -⟩
      omega
  · rw [if_neg hshort, and_iff_right (Nat.le_of_not_lt hshort)]
    dsimp only
    cases Number.count? nnzLimit (cells.getD columns.nnz []) with
    | none =>
      constructor
      · rintro ⟨⟩
      · rintro ⟨nnz, k, ⟨⟩, -⟩
    | some nnz =>
      cases Number.count? widthLimit (cells.getD columns.k []) with
      | none =>
        constructor
        · rintro ⟨⟩
        · rintro ⟨nnz, k, -, ⟨⟩, -⟩
      | some k =>
        constructor
        · exact fun h => ⟨nnz, k, rfl, rfl, h⟩
        · rintro ⟨nnz, k, ⟨⟩, ⟨⟩, h⟩
          exact h

/-- A row keeps the matrix that it is read for. -/
theorem source_of_readRow {columns : Columns} {source : String} {cells : List (List Char)}
    {row : Observation Float} (h : columns.readRow source cells = .ok row) : row.source = source := by
  obtain ⟨-, nnz, k, -, -, hrow⟩ := readRow_eq_ok_iff.1 h
  exact source_of_readThroughputs hrow

end Report.Columns

end KernelCharts
