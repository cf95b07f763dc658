import KernelCharts.Proofs.Extraction.Header
import KernelCharts.Proofs.Kernel.Names
import KernelCharts.Proofs.Report.Row

/-!
# Headers and the rows below them

A header names its columns by headings: the number of nonzeros, the width, a kernel, or something that
is of no interest.  Where these columns stand, and what the cells below them say, does not depend on
how the names are written.

* `Heading`, `headingOf` — what a cell of a header names;
* `Resolves`, `ofHeader?_resolves` — the columns that a header has;
* `Heading.Names`, `Heading.Holds` — the cells of a header, and those of a row, as they are written;
* `Resolves.readRow` — a row is read as its cells say.
-/

namespace KernelCharts

namespace Report

/-! ## Headings -/

inductive Heading where
  | nnz
  | k
  | kernel (kernel : Kernel)
  | other
deriving DecidableEq, Repr

def Heading.kernel? : Heading → Option Kernel
  | .kernel named => some named
  | .nnz | .k | .other => none

def nnzWord : List Char := "NNZ".toList

def widthWord : List Char := "K".toList

/-- what the text of a header cell names -/
def headingOf (text : List Char) : Heading :=
  if Text.sameLetters text nnzWord then .nnz
  else if Text.sameLetters text widthWord then .k
  else ((Kernel.ofName? text).map Heading.kernel).getD .other

theorem headingOf_eq_nnz_iff (text : List Char) :
    headingOf text = .nnz ↔ Text.sameLetters text nnzWord = true := by
  unfold headingOf
  by_cases hnnz : Text.sameLetters text nnzWord = true
  · simp [hnnz]
  · rw [if_neg hnnz]
    split
    · simp [hnnz]
    · cases Kernel.ofName? text <;> simp [hnnz]

theorem headingOf_eq_k_iff (text : List Char) :
    headingOf text = .k ↔ Text.sameLetters text widthWord = true := by
  unfold headingOf
  by_cases hnnz : Text.sameLetters text nnzWord = true
  · -- one word has three letters and the other one has one
    rw [if_pos hnnz]
    simp only [Text.sameLetters, beq_iff_eq] at hnnz ⊢
    rw [hnnz]
    decide
  · rw [if_neg hnnz]
    by_cases hk : Text.sameLetters text widthWord = true
    · simp [hk]
    · rw [if_neg hk]
      cases Kernel.ofName? text <;> simp [hk]

theorem kernel?_headingOf (text : List Char) : (headingOf text).kernel? = Kernel.ofName? text := by
  unfold headingOf
  split
  · next hnnz =>
    rw [Kernel.ofName?_congr hnnz (by decide)]
    decide
  · split
    · next hk =>
      rw [Kernel.ofName?_congr hk (by decide)]
      decide
    · cases Kernel.ofName? text <;> rfl

/-! ## Columns -/

/-- A word is found where its heading is. -/
theorem column?_eq {name : String} {heading : Heading}
    (h : ∀ text, headingOf text = heading ↔ Text.sameLetters text name.toList = true)
    (texts : List (List Char)) :
    column? [name] texts = (texts.map headingOf).findIdx? (· = heading) := by
  rw [column?, List.findIdx?_map]
  congr 1
  funext text
  rw [Function.comp_apply, List.any_cons, List.any_nil, Bool.or_false, Bool.eq_iff_iff, decide_eq_true_eq]
  exact (h text).symm

def kernelPlaces (headings : List Heading) : List (Kernel × Nat) :=
  headings.zipIdx.filterMap fun (heading, i) => heading.kernel?.map fun kernel => (kernel, i)

theorem kernelPlaces_eq (headings : List Heading) :
    kernelPlaces headings = places Heading.kernel? headings := rfl

theorem namedColumns_eq (texts : List (List Char)) :
    namedColumns texts = kernelPlaces (texts.map headingOf) := by
  rw [kernelPlaces_eq, places_map, namedColumns_eq_places]
  simp only [kernel?_headingOf]

theorem map_fst_kernelPlaces (headings : List Heading) :
    (kernelPlaces headings).map (·.1) = headings.filterMap Heading.kernel? :=
  map_fst_places Heading.kernel? headings

theorem mem_kernelPlaces {headings : List Heading} {place : Kernel × Nat} :
    place ∈ kernelPlaces headings ↔ headings[place.2]? = some (.kernel place.1) := by
  rw [kernelPlaces_eq, mem_places]
  constructor
  · rintro ⟨heading, hi, hkernel⟩
    rw [hi]
    cases heading <;> cases hkernel
    rfl
  · exact fun h => ⟨_, h, rfl⟩

/-- The columns stand where the headings of a header do. -/
structure Resolves (headings : List Heading) (columns : Columns) : Prop where
  nnz : headings[columns.nnz]? = some .nnz
  k : headings[columns.k]? = some .k
  throughput : columns.throughput = kernelPlaces headings
  minCells : columns.minCells ≤ headings.length

theorem foldl_max_lt {l : List Nat} {a n : Nat} (ha : a < n) (hl : ∀ b ∈ l, b < n) :
    l.foldl max a < n := by
  induction l generalizing a with
  | nil => exact ha
  | cons b l ih =>
    exact ih (Nat.max_lt.2 ⟨ha, hl b List.mem_cons_self⟩)
      fun c hc => hl c (List.mem_cons_of_mem b hc)

/-- **A header that names the columns that are needed has them where they are named.** -/
theorem ofHeader?_resolves {texts : List (List Char)} {headings : List Heading}
    (htexts : texts.map headingOf = headings) (hnnz : .nnz ∈ headings) (hk : .k ∈ headings)
    (hdistinct : (headings.filterMap Heading.kernel?).Nodup)
    (hne : headings.filterMap Heading.kernel? ≠ []) :
    ∃ columns, Columns.ofHeader? texts = some columns ∧ Resolves headings columns := by
  obtain ⟨nnz, hnnzColumn, hnnzPlace⟩ := exists_findIdx?_of_mem hnnz
  obtain ⟨k, hkColumn, hkPlace⟩ := exists_findIdx?_of_mem hk
  rw [← htexts, ← column?_eq headingOf_eq_nnz_iff] at hnnzColumn
  rw [← htexts, ← column?_eq headingOf_eq_k_iff] at hkColumn
  have hkernels : kernelColumns texts = kernelPlaces headings := by
    rw [kernelColumns, namedColumns_eq, htexts, keepFirst_eq_self]
    rw [map_fst_kernelPlaces]
    exact hdistinct
  have hempty : (kernelPlaces headings).isEmpty = false := by
    rw [List.isEmpty_eq_false_iff]
    intro hnil
    rw [← map_fst_kernelPlaces, hnil] at hne
    exact hne rfl
  have hlast : ((kernelPlaces headings).map (·.2)).foldl max (max nnz k) < headings.length := by
    refine foldl_max_lt (Nat.max_lt.2 ⟨?_, ?_⟩) fun i hi => ?_
    · exact (List.getElem?_eq_some_iff.1 hnnzPlace).1
    · exact (List.getElem?_eq_some_iff.1 hkPlace).1
    · obtain ⟨place, hplace, rfl⟩ := List.mem_map.1 hi
      exact (List.getElem?_eq_some_iff.1 (mem_kernelPlaces.1 hplace)).1
  refine ⟨⟨nnz, k, kernelPlaces headings, _⟩, ?_, hnnzPlace, hkPlace, rfl, hlast⟩
  simp only [Columns.ofHeader?, hnnzColumn, hkColumn, hkernels, hempty]
  rfl

/-! ## Cells under headings -/

/-- what a row says -/
structure Measurement where
  nnz : Nat
  k : Nat
  gflops : Kernel → Option Float

namespace Heading

/-- The cell of a header names the column: a word in any case, with blanks around it, or a text that is
neither of the words nor the name of a kernel. -/
def Names : Heading → List Char → Prop
  | nnz, cell => ∃ text, Shows cell text ∧ Text.sameLetters text nnzWord = true
  | k, cell => ∃ text, Shows cell text ∧ Text.sameLetters text widthWord = true
  | kernel named, cell => ∃ text, Shows cell text ∧ named.Spells text
  | other, cell => Fits cell ∧ Text.sameLetters (cleanCell cell) nnzWord = false ∧
      Text.sameLetters (cleanCell cell) widthWord = false ∧ Kernel.ofName? (cleanCell cell) = none

/-- The cell says what a row has in the column: a numeral, with blanks around it, or anything in a column
of no interest. -/
def Holds (m : Measurement) : Heading → List Char → Prop
  | nnz, cell => ∃ text, Shows cell text ∧ Number.IsDecimal text m.nnz
  | k, cell => ∃ text, Shows cell text ∧ Number.IsDecimal text m.k
  | kernel named, cell => ShowsThroughput cell (m.gflops named)
  | other, cell => Fits cell

theorem isCellChar_of_toLower {c : Char} (h : isCellChar c.toLower = true) : isCellChar c = true := by
  have hne : ∀ d, isCellChar d.toLower = false → c ≠ d := by
    rintro d hd rfl
    rw [h] at hd
    cases hd
  have hblank := not_isBlank_of_isCellChar h
  rw [Text.isBlank_toLower] at hblank
  simp [isCellChar, hblank, hne '%' (by decide), hne '|' (by decide)]

theorem isCellChar_of_sameLetters {text word : List Char} (h : Text.sameLetters text word = true)
    (hword : word.all (fun d => isCellChar d.toLower) = true) : ∀ c ∈ text, isCellChar c = true := by
  intro c hc
  obtain ⟨d, hd, hlower⟩ := Text.exists_mem_of_sameLetters h hc
  exact isCellChar_of_toLower (hlower ▸ List.all_eq_true.1 hword d hd)

theorem isCellChar_of_spells {named : Kernel} {text : List Char} (h : named.Spells text) :
    ∀ c ∈ text, isCellChar c = true := by
  rcases h with h | h
  · exact isCellChar_of_sameLetters h (by cases named <;> decide)
  · exact isCellChar_of_sameLetters h (by cases named <;> decide)

/-- **A header cell names its column**, however it is written. -/
theorem Names.headingOf_eq {heading : Heading} {cell : List Char} (h : heading.Names cell) :
    headingOf (cleanCell cell) = heading := by
  cases heading with
  | nnz =>
    obtain ⟨text, hshows, hword⟩ := h
    rw [hshows.cleanCell_eq (isCellChar_of_sameLetters hword (by decide)), headingOf_eq_nnz_iff, hword]
  | k =>
    obtain ⟨text, hshows, hword⟩ := h
    rw [hshows.cleanCell_eq (isCellChar_of_sameLetters hword (by decide)), headingOf_eq_k_iff, hword]
  | kernel named =>
    obtain ⟨text, hshows, hspells⟩ := h
    rw [hshows.cleanCell_eq (isCellChar_of_spells hspells)]
    have hkernel := kernel?_headingOf text
    rw [hspells.ofName?_eq] at hkernel
    cases hheading : headingOf text with
    | kernel other =>
      rw [hheading] at hkernel
      cases hkernel
      rfl
    | _ =>
      rw [hheading] at hkernel
      cases hkernel
  | other =>
    obtain ⟨-, hnnz, hk, hkernel⟩ := h
    rw [headingOf, hnnz, hk, hkernel]
    rfl

theorem Names.fits {heading : Heading} {cell : List Char} (h : heading.Names cell) : Fits cell := by
  cases heading with
  | nnz | k =>
    obtain ⟨text, hshows, hword⟩ := h
    exact hshows.fits (isCellChar_of_sameLetters hword (by decide))
  | kernel named =>
    obtain ⟨text, hshows, hspells⟩ := h
    exact hshows.fits (isCellChar_of_spells hspells)
  | other => exact h.1

theorem isCellChar_of_isDecimal {text : List Char} {n : Nat} (h : Number.IsDecimal text n) :
    ∀ c ∈ text, isCellChar c = true :=
  fun c hc => isCellChar_of_isNumeralChar (Number.isNumeralChar_of_isDigit (h.digits c hc))

theorem Holds.fits {m : Measurement} {heading : Heading} {cell : List Char}
    (h : heading.Holds m cell) : Fits cell := by
  cases heading with
  | nnz | k =>
    obtain ⟨text, hshows, hdecimal⟩ := h
    exact hshows.fits (isCellChar_of_isDecimal hdecimal)
  | kernel named => exact ShowsThroughput.fits h
  | other => exact h

end Heading

/-- **A row is read as its cells say.** -/
theorem Resolves.readRow {headings : List Heading} {columns : Columns} (h : Resolves headings columns)
    {m : Measurement} {cells : List (List Char)}
    (hcells : List.Forall₂ (Heading.Holds m) headings cells)
    (hnnz : 0 < m.nnz ∧ m.nnz < nnzLimit) (hk : 0 < m.k ∧ m.k < widthLimit) (source : String) :
    ∃ row, columns.readRow source (cells.map cleanCell) = .ok row ∧ row.source = source ∧
      row.nnz = m.nnz ∧ row.k = some m.k ∧ ∀ kernel, row.throughput.get? kernel =
        if kernel ∈ headings.filterMap Heading.kernel? then some (m.gflops kernel) else none := by
  -- the cell below a heading
  have hcell : ∀ {i : Nat} {heading : Heading}, headings[i]? = some heading →
      ∃ cell, (cells.map cleanCell).getD i [] = cleanCell cell ∧ heading.Holds m cell := by
    intro i heading hi
    obtain ⟨cell, hcell, hholds⟩ := exists_getElem?_of_forall₂ hcells hi
    exact ⟨cell, by simp [hcell], hholds⟩
  have hcount : ∀ {cell : List Char} {n limit : Nat},
      (∃ text, Shows cell text ∧ Number.IsDecimal text n) → 0 < n ∧ n < limit →
        Number.count? limit (cleanCell cell) = some n := by
    rintro cell n limit ⟨text, hshows, hdecimal⟩ ⟨hpos, hlt⟩
    rw [hshows.cleanCell_eq (Heading.isCellChar_of_isDecimal hdecimal)]
    exact Number.count?_of_isDecimal hdecimal hpos hlt
  obtain ⟨nnzCell, hnnzCell, hnnzHolds⟩ := hcell h.nnz
  obtain ⟨kCell, hkCell, hkHolds⟩ := hcell h.k
  have hthroughputs : ∀ cell ∈ columns.throughput.map fun column =>
      (column.1, (cells.map cleanCell).getD column.2 []),
      readThroughput cell.1.name cell.2 = .ok (m.gflops cell.1) := by
    rw [h.throughput, List.forall_mem_map]
    intro place hplace
    obtain ⟨cell, hcell, hholds⟩ := hcell (mem_kernelPlaces.1 hplace)
    rw [hcell]
    exact readThroughput_of_shows hholds _
  obtain ⟨row, hread, hsource, hrowNnz, hrowK, hgflops⟩ :=
    exists_readThroughputs hthroughputs ⟨source, m.nnz, some m.k, ∅⟩
  refine ⟨row, Columns.readRow_eq_ok_iff.2 ⟨?_, m.nnz, m.k, ?_, ?_, hread⟩, hsource, hrowNnz, hrowK,
    fun kernel => ?_⟩
  · rw [List.length_map, ← hcells.length_eq]
    exact h.minCells
  · rw [hnnzCell]
    exact hcount hnnzHolds hnnz
  · rw [hkCell]
    exact hcount hkHolds hk
  · rw [hgflops kernel, KernelMap.get?_empty, List.map_map, h.throughput, ← map_fst_kernelPlaces]
    rfl

end Report

end KernelCharts
