import KernelCharts.Proofs.Extraction.Header
import KernelCharts.Proofs.Report.Attribution
import KernelCharts.Proofs.Report.Feed

/-!
# What the rows of a report can be

A report may hold anything between its bars.  Whatever it holds, a row that gets into the table belongs
to a file with an extension, has counts that are positive and within their limits, and has throughputs
that are finite and not negative.  A cell that is empty or missing measures nothing.

* `Credible` — the rows that a table may hold;
* `Columns.nodup_kernels_columnsBefore` — a kernel has one column at most, under every header;
* `Measured` — a row has the throughputs of the cells under its header, and no others;
* `extract_credible` — every row of a report that is read is credible, and measured.
-/

namespace KernelCharts

/-- The row has a file name with an extension, positive counts within their limits, and throughputs that
are finite and not negative. -/
structure Credible (row : Observation Float) : Prop where
  nonempty : row.source ≠ ""
  chars : ∀ c ∈ row.source.toList, c ≠ '/' ∧ c ≠ ',' ∧ c ≠ '|' ∧ Text.isBlank c = false
  extended : ∃ stem extension, row.source.toList = stem ++ '.' :: extension ∧ extension ≠ [] ∧
    ∀ c ∈ extension, Text.isAlphanumeric c = true
  nnz : 0 < row.nnz ∧ row.nnz < nnzLimit
  k : ∀ k, row.k = some k → 0 < k ∧ k < widthLimit
  gflops : ∀ kernel x, row.gflops kernel = some x → x.isFinite = true ∧ 0.0 ≤ x

theorem Credible.congr {row row' : Observation Float} (h : Credible row)
    (hsame : row.SameMeasurements row') : Credible row' := by
  obtain ⟨hsource, hnnz, hk, hgflops⟩ := hsame
  constructor
  case nonempty => exact hsource ▸ h.nonempty
  case chars => exact hsource ▸ h.chars
  case extended => exact hsource ▸ h.extended
  case nnz => exact hnnz ▸ h.nnz
  case k => exact hk ▸ h.k
  case gflops =>
    intro kernel x hx
    rw [hgflops] at hx
    exact h.gflops kernel x hx

namespace Report

/-! ## Columns -/

namespace Columns

theorem nodup_kernels_ofHeader? {cells : List (List Char)} {columns : Columns}
    (h : ofHeader? cells = some columns) : columns.kernels.Nodup := by
  simp only [ofHeader?, Option.bind_eq_bind, Option.bind_eq_some_iff] at h
  obtain ⟨nnz, -, k, -, h⟩ := h
  split at h
  · simp at h
  · simp only [Option.some.injEq] at h
    subst h
    exact nodup_kernelColumns cells

/-- **A kernel has one column at most**, by position and under every header. -/
theorem nodup_kernels_columnsBefore (lines : List (List Char)) (i : Nat) :
    (columnsBefore lines i).kernels.Nodup := by
  have hpositional : positional.kernels.Nodup := by decide
  rw [columnsBefore, lastColumns]
  split
  · exact hpositional
  · next header _ =>
    cases hcolumns : ofHeader? (splitRow header) with
    | none => exact hpositional
    | some columns => exact nodup_kernels_ofHeader? hcolumns

end Columns

/-! ## Rows -/

/-- The row has the throughputs that the cells of a line state under the header before it: the cell of
the kernel is there, and it is a numeral. -/
def Measured (lines : List (List Char)) (place : List Char × Nat) (row : Observation Float) : Prop :=
  ∀ kernel x, row.gflops kernel = some x ↔ ∃ i cell,
    (kernel, i) ∈ (columnsBefore lines place.2).throughput ∧ (splitRow place.1)[i]? = some cell ∧
      cell ≠ [] ∧ IsThroughput cell x

theorem isThroughput_getD_iff {cells : List (List Char)} {i : Nat} {x : Float} :
    IsThroughput (cells.getD i []) x ↔ ∃ cell, cells[i]? = some cell ∧ cell ≠ [] ∧ IsThroughput cell x := by
  rw [List.getD_eq_getElem?_getD]
  constructor
  · intro h
    have hne : cells[i]?.getD [] ≠ [] := by
      obtain ⟨n, hn, -⟩ := h
      exact Number.Numeral.ne_nil_of_read? hn
    cases hi : cells[i]? with
    | none => simp [hi] at hne
    | some cell =>
      simp only [hi, Option.getD_some] at h hne
      exact ⟨cell, rfl, hne, h⟩
  · rintro ⟨cell, hi, -, h⟩
    rw [hi]
    exact h

theorem exists_fileName_of_fileBefore {lines : List (List Char)} {i : Nat} {file : List Char}
    (h : fileBefore lines i = some file) : ∃ name : FileName, name.text = file := by
  rw [fileBefore, lastFile] at h
  obtain ⟨line, -, hline⟩ := List.mem_filterMap.1 (List.mem_of_getLast? h)
  exact exists_fileName_of_contextFile? hline

section

variable {lines : List (List Char)} {place : List Char × Nat} {said : Observation Float}
  (h : observation? lines place = some said)

include h

theorem exists_filled_of_observation? : ∃ (name : FileName) (nnz k : Nat),
    (0 < nnz ∧ nnz < nnzLimit) ∧ (0 < k ∧ k < widthLimit) ∧
      Filled ((columnsBefore lines place.2).throughput.map fun column =>
        (column.1, (splitRow place.1).getD column.2 [])) ⟨String.ofList name.text, nnz, some k, ∅⟩ said := by
  obtain ⟨file, hfile, hrow⟩ := exists_readRow_of_observation? h
  obtain ⟨name, rfl⟩ := exists_fileName_of_fileBefore hfile
  obtain ⟨-, nnz, k, hnnz, hk, hcells⟩ := Columns.readRow_eq_ok_iff.1 hrow
  rw [Number.count?_eq_some_iff] at hnnz hk
  refine ⟨name, nnz, k, ⟨hnnz.pos, hnnz.lt⟩, ⟨hk.pos, hk.lt⟩, filled_of_readThroughputs ?_ hcells⟩
  rw [List.map_map]
  exact Columns.nodup_kernels_columnsBefore lines place.2

theorem measured_of_observation? : Measured lines place said := by
  intro kernel x
  obtain ⟨name, nnz, k, -, -, hfilled⟩ := exists_filled_of_observation? h
  rw [hfilled.gflops_eq_some_iff rfl]
  constructor
  · rintro ⟨text, hmem, htext⟩
    obtain ⟨⟨named, i⟩, hcolumn, heq⟩ := List.mem_map.1 hmem
    cases heq
    obtain ⟨cell, hcell⟩ := isThroughput_getD_iff.1 htext
    exact ⟨i, cell, hcolumn, hcell⟩
  · rintro ⟨i, cell, hcolumn, hcell⟩
    exact ⟨_, List.mem_map.2 ⟨_, hcolumn, rfl⟩, isThroughput_getD_iff.2 ⟨cell, hcell⟩⟩

/-- **A row of values that is read is credible**, whatever the lines before it are. -/
theorem credible_of_observation? : Credible said := by
  obtain ⟨name, nnz, k, hnnz, hk, hfilled⟩ := exists_filled_of_observation? h
  have hsource : said.source.toList = name.text := by rw [hfilled.source, String.toList_ofList]
  constructor
  case nonempty =>
    intro hempty
    rw [hempty] at hsource
    simp [FileName.text] at hsource
  case chars =>
    intro c hc
    rw [hsource] at hc
    have hchar := name.isNameChar_text c hc
    simp only [isNameChar, Bool.not_eq_true', Bool.or_eq_false_iff, decide_eq_false_iff_not] at hchar
    obtain ⟨⟨⟨hslash, hcomma⟩, hbar⟩, hblank⟩ := hchar
    exact ⟨hslash, hcomma, hbar, hblank⟩
  case extended =>
    exact ⟨name.stem, name.extension, hsource, name.extension_ne_nil, name.isAlphanumeric_extension⟩
  case nnz =>
    have hsaid : said.nnz = nnz := hfilled.nnz
    rw [hsaid]
    exact hnnz
  case k =>
    intro width hwidth
    rw [hfilled.k, Option.some.injEq] at hwidth
    rw [← hwidth]
    exact hk
  case gflops =>
    intro kernel x hx
    obtain ⟨i, cell, -, -, -, n, -, -, hfinite, hnonneg⟩ := (measured_of_observation? h kernel x).1 hx
    exact ⟨hfinite, hnonneg⟩

end

/-! ## Reports -/

/-- The rows of a table are credible, and are what some lines say that they measure. -/
structure Sound (lines : List (List Char)) (rows : List (Observation Float)) : Prop where
  credible : ∀ row ∈ rows, Credible row
  measured : List.Forall₂ (Measured lines) (acceptedRows lines) rows

theorem sound_extractLines (lines : List (List Char)) :
    Sound lines (extractLines (lines.map classify)).table.rows := by
  have hsaid := forall₂_acceptedRows lines
  constructor
  case credible =>
    -- the table brings the rows under its kernels, and keeps all that they measured
    refine forall_right_of_forall₂ hsaid ?_
    rintro place row ⟨said, hobservation, hsame⟩
    exact (credible_of_observation? hobservation).congr hsame
  case measured =>
    refine hsaid.imp ?_
    rintro place row ⟨said, hobservation, hsame⟩ kernel x
    rw [hsame.gflops]
    exact measured_of_observation? hobservation kernel x

/-- **Every row of a report that is read is credible**, whatever the report holds besides, and measures
what its cells state and nothing else. -/
theorem extract_credible {feed : Feed} {events : List LogEvent} {e : Extraction}
    (h : extract feed = (events, .ok e)) : ∃ text, feed = Feed.ofBytes (Utf8.encode text) ∧
      Sound (Text.lines text) e.table.rows := by
  obtain ⟨text, hfeed, -, rfl⟩ := extract_eq_ok_iff.1 h
  exact ⟨text, hfeed, sound_extractLines _⟩

/-- a report with rows of every kind: one without a file, some under a header that repeats a kernel, some
with numbers that are out of bounds, and some by position -/
def mixedReport : String :=
  "|1|2|9|1|1||||||\nfile : b/c.mtx, 3%\n|M|RoDe|NNZ|K|rode|\n|1||18446744073709551615|+32%|x|\n" ++
    "|-|-|-|\n|1||18446744073709551616|32||\n|M|\n|1|2|%7|1|4294967295||||||\n"

theorem extract_credible_mixedReport :
    ((extractLines ((Text.lines mixedReport.toList).map classify)).table.rows.map fun row =>
      (row.source, row.nnz, row.k)) =
        [("c.mtx", 18446744073709551615, some 32), ("c.mtx", 7, some 4294967295)] ∧
    ∃ text, Feed.ofBytes mixedReport.toUTF8.data.toList = Feed.ofBytes (Utf8.encode text) ∧
      Sound (Text.lines text) (extractLines ((Text.lines mixedReport.toList).map classify)).table.rows :=
  ⟨by decide +kernel, extract_credible (extract_text mixedReport)⟩

end Report

end KernelCharts
