import KernelCharts.Proofs.Extraction.Count
import KernelCharts.Proofs.Report.Header
import KernelCharts.Report.Extract

/-!
# Columns that are looked up

The cells of a row are looked up by number, in columns that some header named.  A header may name a column more
than once, in any case and any order; a row may have any number of cells.

* `FirstAt`, `Resolved` — the first columns that a header names, and what is said of them;
* `Columns.isSome_ofHeader?_iff`, `Columns.resolved_ofHeader?` — the headers that are recognised, and their
  columns;
* `Columns.used`, `Columns.Tight` — the columns that are looked up, and the number of cells that this needs;
* `Columns.lookUpRow`, `Columns.lookUpRow_eq` — a row whose cells are looked up where they stand is the row that
  is read;
* `Context.tight_next`, `Context.tight_foldl_next` — the columns of every context need just the cells that are
  looked up;
* `resolves_and_reads_within` — headers and rows of any report.
-/

namespace KernelCharts.Report

/-! ## First places -/

/-- The element at a place has a property, and none before it has. -/
structure FirstAt {β : Type} (p : β → Prop) (l : List β) (i : Nat) : Prop where
  here : ∃ b, l[i]? = some b ∧ p b
  before : ∀ j < i, ∀ b, l[j]? = some b → ¬ p b

theorem findIdx?_eq_some_iff_firstAt {β : Type} {p : β → Bool} {l : List β} {i : Nat} :
    l.findIdx? p = some i ↔ FirstAt (p · = true) l i := by
  rw [List.findIdx?_eq_some_iff_getElem]
  constructor
  · rintro ⟨hlt, hp, hbefore⟩
    refine ⟨⟨_, List.getElem?_eq_getElem hlt, hp⟩, fun j hj b hb => ?_⟩
    obtain ⟨hlength, rfl⟩ := List.getElem?_eq_some_iff.1 hb
    exact hbefore j hj
  · rintro ⟨⟨b, hb, hp⟩, hbefore⟩
    obtain ⟨hlt, rfl⟩ := List.getElem?_eq_some_iff.1 hb
    exact ⟨hlt, hp, fun j hj => hbefore j hj _ (List.getElem?_eq_getElem (hj.trans hlt))⟩

/-! ## Headers -/

/-- The cell is the word for numbers of nonzeros, in any case. -/
def NamesNonzeros (cell : List Char) : Prop := Text.sameLetters cell nnzWord = true

/-- The cell is the word for widths, in any case. -/
def NamesWidth (cell : List Char) : Prop := Text.sameLetters cell widthWord = true

/-- The cell is the name of a kernel, in any case, with or without the unit and with blanks around it. -/
def NamesKernel (kernel : Kernel) (cell : List Char) : Prop := kernel.Spells (Text.trim cell)

namespace Columns

/-- the columns that the cells of a row are looked up in -/
def used (columns : Columns) : List Nat := columns.nnz :: columns.k :: columns.throughput.map (·.2)

/-- A row needs as many cells as it takes for the last column that is looked up. -/
def Tight (columns : Columns) : Prop :=
  ∃ last, IsGreatest {i | i ∈ columns.used} last ∧ columns.minCells = last + 1

end Columns

/-- The columns are the first ones that a header names, each kernel having one. -/
structure Resolved (header : List (List Char)) (columns : Columns) : Prop where
  nnz : FirstAt NamesNonzeros header columns.nnz
  k : FirstAt NamesWidth header columns.k
  throughput : ∀ kernel i, (kernel, i) ∈ columns.throughput ↔ FirstAt (NamesKernel kernel) header i
  kernels : columns.kernels.Nodup
  order : columns.throughput.Pairwise fun p q => p.2 < q.2
  minCells : columns.Tight

theorem column?_eq_some_iff {word : String} {header : List (List Char)} {i : Nat} :
    column? [word] header = some i ↔
      FirstAt (fun cell => Text.sameLetters cell word.toList = true) header i := by
  simp only [column?, findIdx?_eq_some_iff_firstAt, List.any_cons, List.any_nil, Bool.or_false]

theorem isSome_column?_iff {word : String} {header : List (List Char)} :
    (column? [word] header).isSome ↔ ∃ cell ∈ header, Text.sameLetters cell word.toList = true := by
  simp only [column?, List.findIdx?_isSome, List.any_eq_true, List.any_cons, List.any_nil, Bool.or_false]

theorem mem_kernelColumns_iff_firstAt {header : List (List Char)} {kernel : Kernel} {i : Nat} :
    (kernel, i) ∈ kernelColumns header ↔ FirstAt (NamesKernel kernel) header i := by
  simp only [mem_kernelColumns, findIdx?_eq_some_iff_firstAt, decide_eq_true_eq, Kernel.ofName?_eq_some_iff]
  rfl

theorem pairwise_kernelColumns (header : List (List Char)) :
    (kernelColumns header).Pairwise fun p q => p.2 < q.2 :=
  (pairwise_places Kernel.ofName? header).sublist (keepFirst_sublist _ _)

theorem kernelColumns_ne_nil_iff {header : List (List Char)} :
    kernelColumns header ≠ [] ↔ ∃ kernel, ∃ cell ∈ header, NamesKernel kernel cell := by
  constructor
  · intro hne
    obtain ⟨⟨kernel, i⟩, hmem⟩ := List.exists_mem_of_ne_nil _ hne
    obtain ⟨⟨cell, hcell, hnames⟩, -⟩ := mem_kernelColumns_iff_firstAt.1 hmem
    exact ⟨kernel, cell, List.mem_of_getElem? hcell, hnames⟩
  · rintro ⟨kernel, cell, hcell, hnames⟩
    have hsome : (header.findIdx? fun name => Kernel.ofName? name = some kernel).isSome := by
      rw [List.findIdx?_isSome, List.any_eq_true]
      exact ⟨cell, hcell, decide_eq_true (Kernel.ofName?_eq_some_iff.2 hnames)⟩
    obtain ⟨i, hi⟩ := Option.isSome_iff_exists.1 hsome
    have hmem : (kernel, i) ∈ kernelColumns header := mem_kernelColumns.2 hi
    exact List.ne_nil_of_mem hmem

namespace Columns

theorem ofHeader?_eq_some_iff {header : List (List Char)} {columns : Columns} :
    ofHeader? header = some columns ↔ column? ["NNZ"] header = some columns.nnz ∧
      column? ["K"] header = some columns.k ∧ kernelColumns header ≠ [] ∧
      columns.throughput = kernelColumns header ∧
      columns.minCells =
        ((kernelColumns header).map (·.2)).foldl max (max columns.nnz columns.k) + 1 := by
  obtain ⟨nnz, k, throughput, minCells⟩ := columns
  cases hnnz : column? ["NNZ"] header with
  | none => simp [ofHeader?, hnnz]
  | some nnz' =>
    cases hk : column? ["K"] header with
    | none => simp [ofHeader?, hnnz, hk]
    | some k' =>
      by_cases hnil : kernelColumns header = []
      · simp [ofHeader?, hnnz, hk, hnil]
      · simp only [ofHeader?, hnnz, hk, Option.bind_eq_bind, Option.bind_some]
        rw [if_neg (by rwa [List.isEmpty_iff])]
        simp only [Option.some.injEq, Columns.mk.injEq]
        constructor
        · rintro ⟨rfl, rfl, rfl, rfl⟩
          exact ⟨rfl, rfl, hnil, rfl, rfl⟩
        · rintro ⟨rfl, rfl, -, rfl, rfl⟩
          exact ⟨rfl, rfl, rfl, rfl⟩

/-- **The headers that are recognised** name the numbers of nonzeros, the widths and a kernel. -/
theorem isSome_ofHeader?_iff {header : List (List Char)} : (ofHeader? header).isSome ↔
    (∃ cell ∈ header, NamesNonzeros cell) ∧ (∃ cell ∈ header, NamesWidth cell) ∧
      ∃ kernel, ∃ cell ∈ header, NamesKernel kernel cell := by
  have hnnz : (column? ["NNZ"] header).isSome ↔ ∃ cell ∈ header, NamesNonzeros cell := isSome_column?_iff
  have hk : (column? ["K"] header).isSome ↔ ∃ cell ∈ header, NamesWidth cell := isSome_column?_iff
  rw [← hnnz, ← hk, ← kernelColumns_ne_nil_iff]
  simp only [Option.isSome_iff_exists, ofHeader?_eq_some_iff]
  constructor
  · rintro ⟨columns, hnnz, hk, hkernels, -⟩
    exact ⟨⟨_, hnnz⟩, ⟨_, hk⟩, hkernels⟩
  · rintro ⟨⟨nnz, hnnz⟩, ⟨k, hk⟩, hkernels⟩
    let minCells := ((kernelColumns header).map (·.2)).foldl max (max nnz k) + 1
    exact ⟨⟨nnz, k, kernelColumns header, minCells⟩, hnnz, hk, hkernels, rfl, rfl⟩

theorem tight_of_foldl {columns : Columns} (h : columns.minCells =
    (columns.throughput.map (·.2)).foldl max (max columns.nnz columns.k) + 1) : columns.Tight := by
  have hlast := isGreatest_foldl_max columns.nnz (columns.k :: columns.throughput.map (·.2))
  exact ⟨_, hlast, h⟩

/-- **The columns of a header** are the first ones that it names. -/
theorem resolved_ofHeader? {header : List (List Char)} {columns : Columns}
    (h : ofHeader? header = some columns) : Resolved header columns := by
  obtain ⟨hnnz, hk, -, hthroughput, hminCells⟩ := ofHeader?_eq_some_iff.1 h
  constructor
  case nnz => exact column?_eq_some_iff.1 hnnz
  case k => exact column?_eq_some_iff.1 hk
  case throughput =>
    intro kernel i
    rw [hthroughput]
    exact mem_kernelColumns_iff_firstAt
  case kernels =>
    rw [kernels, hthroughput]
    exact nodup_kernelColumns header
  case order =>
    rw [hthroughput]
    exact pairwise_kernelColumns header
  case minCells =>
    rw [← hthroughput] at hminCells
    exact tight_of_foldl hminCells

end Columns

/-! ## Rows -/

namespace Columns

/-- a cell of a row, looked up where it stands -/
def lookUp (cells : List (List Char)) (index : Nat) : ExceptT RowError Option (List Char) :=
  ExceptT.lift cells[index]?

/-- the observation of a row, where every cell is looked up where it stands; nothing if a cell is looked up
that the row does not have -/
def lookUpRow (columns : Columns) (source : String) (cells : List (List Char)) :
    ExceptT RowError Option (Observation Float) := do
  if cells.length < columns.minCells then
    throw (.tooShort cells.length columns.minCells)
  let nnz ← readCount nnzLimit "NNZ" (← lookUp cells columns.nnz)
  let k ← readCount widthLimit "K" (← lookUp cells columns.k)
  columns.throughput.foldlM
    (fun row (kernel, index) => do
      return row.record kernel (← readThroughput kernel.name (← lookUp cells index)))
    { source, nnz, k := some k, throughput := ∅ }

theorem lookUp_bind {β : Type} {cells : List (List Char)} {index : Nat} (h : index < cells.length)
    (read : List Char → ExceptT RowError Option β) :
    lookUp cells index >>= read = read (cells.getD index []) := by
  have hcell : cells[index]? = some (cells.getD index []) := by simp [h]
  rw [lookUp, hcell]
  rfl

theorem foldlM_lookUp {cells : List (List Char)} {throughput : List (Kernel × Nat)}
    (h : ∀ column ∈ throughput, column.2 < cells.length) (row : Observation Float) :
    (throughput.foldlM (fun row (kernel, index) => do
        return row.record kernel (← readThroughput kernel.name (← lookUp cells index)))
      row : ExceptT RowError Option _).run =
      some (readThroughputs (throughput.map fun (kernel, index) => (kernel, cells.getD index [])) row) := by
  induction throughput generalizing row with
  | nil => rfl
  | cons column throughput ih =>
    obtain ⟨kernel, index⟩ := column
    have hrest := ih fun column hcolumn => h column (List.mem_cons_of_mem _ hcolumn)
    rw [List.foldlM_cons, List.map_cons, readThroughputs_cons]
    dsimp only
    rw [lookUp_bind (h (kernel, index) List.mem_cons_self)]
    cases readThroughput kernel.name (cells.getD index []) with
    | error cause => rfl
    | ok gflops => exact hrest (row.record kernel gflops)

/-- **No cell is looked up that a row does not have**, if the columns need all that they use. -/
theorem lookUpRow_eq {columns : Columns} (h : ∀ i ∈ columns.used, i < columns.minCells) (source : String)
    (cells : List (List Char)) :
    (columns.lookUpRow source cells).run = some (columns.readRow source cells) := by
  unfold lookUpRow readRow
  by_cases hshort : cells.length < columns.minCells
  · rw [if_pos hshort, if_pos hshort]
    rfl
  · have hlt : ∀ i ∈ columns.used, i < cells.length := fun i hi => (h i hi).trans_le (not_lt.1 hshort)
    have hthroughput : ∀ column ∈ columns.throughput, column.2 < cells.length := fun column hcolumn =>
      hlt column.2 (by simp [used, List.mem_map_of_mem hcolumn])
    rw [if_neg hshort, if_neg hshort]
    dsimp only [pure_bind]
    rw [lookUp_bind (hlt columns.nnz List.mem_cons_self)]
    cases readCount nnzLimit "NNZ" (cells.getD columns.nnz []) with
    | error cause => rfl
    | ok nnz =>
      show (lookUp cells columns.k >>= _).run = _
      rw [lookUp_bind (hlt columns.k (by simp [used]))]
      cases readCount widthLimit "K" (cells.getD columns.k []) with
      | error cause => rfl
      | ok k => exact foldlM_lookUp hthroughput _

/-! ### Complaints -/

/-- the columns that are looked up, with the names that a complaint about their cells gives them -/
def labelled (columns : Columns) : List (String × Nat) :=
  ("NNZ", columns.nnz) :: ("K", columns.k) :: columns.throughput.map fun column => (column.1.name, column.2)

theorem map_snd_labelled (columns : Columns) : columns.labelled.map (·.2) = columns.used := by
  simp [labelled, used, Function.comp_def]

theorem exists_invalid_of_readThroughputs {cells : List (Kernel × List Char)} {row : Observation Float}
    {cause : RowError} (h : readThroughputs cells row = .error cause) :
    ∃ cell ∈ cells, cause = .invalid cell.1.name cell.2 := by
  induction cells generalizing row with
  | nil => cases h
  | cons cell cells ih =>
    obtain ⟨kernel, text⟩ := cell
    rw [readThroughputs_cons] at h
    cases hcell : readThroughput kernel.name text with
    | error cause' =>
      rw [hcell] at h
      cases h
      refine ⟨(kernel, text), List.mem_cons_self, ?_⟩
      unfold readThroughput at hcell
      split at hcell
      · cases hcell
      · split at hcell <;> cases hcell
        rfl
    | ok gflops =>
      rw [hcell] at h
      obtain ⟨cell, hmem, hcause⟩ := ih h
      exact ⟨cell, List.mem_cons_of_mem _ hmem, hcause⟩

/-- **A row that is not read** is too short, or has a cell in one of the columns that cannot be read. -/
theorem readRow_error_cases {columns : Columns} {source : String} {cells : List (List Char)}
    {cause : RowError} (h : columns.readRow source cells = .error cause) :
    cells.length < columns.minCells ∧ cause = .tooShort cells.length columns.minCells ∨
      columns.minCells ≤ cells.length ∧
        ∃ column ∈ columns.labelled, cause = .invalid column.1 (cells.getD column.2 []) := by
  unfold readRow at h
  by_cases hshort : cells.length < columns.minCells
  · rw [if_pos hshort] at h
    cases h
    exact .inl ⟨hshort, rfl⟩
  · refine .inr ⟨not_lt.1 hshort, ?_⟩
    rw [if_neg hshort] at h
    cases hnnz : readCount nnzLimit "NNZ" (cells.getD columns.nnz []) with
    | error cause' =>
      simp only [hnnz] at h
      cases h
      exact ⟨("NNZ", columns.nnz), by simp [labelled], (readCount_eq_error_iff.1 hnnz).1⟩
    | ok nnz =>
      cases hk : readCount widthLimit "K" (cells.getD columns.k []) with
      | error cause' =>
        simp only [hnnz, hk] at h
        cases h
        exact ⟨("K", columns.k), by simp [labelled], (readCount_eq_error_iff.1 hk).1⟩
      | ok k =>
        simp only [hnnz, hk] at h
        obtain ⟨cell, hcell, hcause⟩ := exists_invalid_of_readThroughputs h
        obtain ⟨column, hcolumn, rfl⟩ := List.mem_map.1 hcell
        exact ⟨(column.1.name, column.2), by simp [labelled, List.mem_map_of_mem, hcolumn], hcause⟩

/-! ### Long and short rows -/

section Tight

variable {columns : Columns} (h : columns.Tight)

include h

theorem Tight.lt_minCells {i : Nat} (hi : i ∈ columns.used) : i < columns.minCells := by
  obtain ⟨last, ⟨-, hlast⟩, hminCells⟩ := h
  rw [hminCells]
  exact Nat.lt_succ_of_le (hlast hi)

theorem Tight.exists_le_iff {n : Nat} : (∃ i ∈ columns.used, n ≤ i) ↔ n < columns.minCells := by
  constructor
  · rintro ⟨i, hi, hn⟩
    exact hn.trans_lt (h.lt_minCells hi)
  · obtain ⟨last, ⟨hlast, -⟩, hminCells⟩ := h
    intro hn
    exact ⟨last, hlast, by omega⟩

/-- **A row is too short** exactly if it lacks a column that is looked up. -/
theorem Tight.readRow_eq_tooShort_iff {source : String} {cells : List (List Char)} {found expected : Nat} :
    columns.readRow source cells = .error (.tooShort found expected) ↔
      (∃ i ∈ columns.used, cells.length ≤ i) ∧ found = cells.length ∧ expected = columns.minCells := by
  rw [h.exists_le_iff]
  constructor
  · intro hread
    rcases readRow_error_cases hread with ⟨hshort, hcause⟩ | ⟨-, column, -, hcause⟩
    · cases hcause
      exact ⟨hshort, rfl, rfl⟩
    · cases hcause
  · rintro ⟨hshort, rfl, rfl⟩
    unfold readRow
    rw [if_pos hshort]
    rfl

/-- **A row says what its cells in these columns say**, whatever else it has. -/
theorem Tight.readRow_congr {source : String} {cells cells' : List (List Char)}
    (hlong : columns.minCells ≤ cells.length) (hsame : ∀ i ∈ columns.used, cells'[i]? = cells[i]?) :
    columns.readRow source cells' = columns.readRow source cells := by
  have hlong' : columns.minCells ≤ cells'.length := by
    rw [← not_lt, ← h.exists_le_iff]
    rintro ⟨i, hi, hle⟩
    have hcell := hsame i hi
    rw [List.getElem?_eq_none hle, eq_comm, List.getElem?_eq_none_iff] at hcell
    exact absurd (h.lt_minCells hi) (by omega)
  have hcell : ∀ i ∈ columns.used, cells'.getD i [] = cells.getD i [] := by
    intro i hi
    rw [List.getD_eq_getElem?_getD, List.getD_eq_getElem?_getD, hsame i hi]
  have hthroughput : columns.throughput.map (fun column => (column.1, cells'.getD column.2 [])) =
      columns.throughput.map fun column => (column.1, cells.getD column.2 []) :=
    List.map_congr_left fun column hcolumn => by
      rw [hcell column.2 (by simp [used, List.mem_map_of_mem hcolumn])]
  unfold readRow
  rw [if_neg hlong'.not_gt, if_neg hlong.not_gt]
  dsimp only
  rw [hcell columns.nnz List.mem_cons_self, hcell columns.k (by simp [used]), hthroughput]

end Tight

end Columns

/-- The cells of a row are looked up where they stand, and none that it does not have. -/
structure ReadsWithin (columns : Columns) (source : String) (cells : List (List Char)) : Prop where
  lookUp : (columns.lookUpRow source cells).run = some (columns.readRow source cells)
  tooShort_iff : ∀ found expected, columns.readRow source cells = .error (.tooShort found expected) ↔
    (∃ i ∈ columns.used, cells.length ≤ i) ∧ found = cells.length ∧ expected = columns.minCells
  invalid : ∀ label cell, columns.readRow source cells = .error (.invalid label cell) →
    ∃ i, (label, i) ∈ columns.labelled ∧ cells[i]? = some cell
  congr : ∀ cells', (∀ i ∈ columns.used, i < cells.length ∧ cells'[i]? = cells[i]?) →
    columns.readRow source cells' = columns.readRow source cells

theorem Columns.Tight.readsWithin {columns : Columns} (h : columns.Tight) (source : String)
    (cells : List (List Char)) : ReadsWithin columns source cells := by
  constructor
  case lookUp => exact lookUpRow_eq (fun i => h.lt_minCells) source cells
  case tooShort_iff => exact fun found expected => h.readRow_eq_tooShort_iff
  case invalid =>
    intro label cell hread
    rcases readRow_error_cases hread with ⟨-, hcause⟩ | ⟨hlong, ⟨label', i⟩, hcolumn, hcause⟩
    · cases hcause
    · cases hcause
      have hused : i ∈ columns.used := columns.map_snd_labelled ▸ List.mem_map_of_mem hcolumn
      have hi := (h.lt_minCells hused).trans_le hlong
      exact ⟨i, hcolumn, by simp [hi]⟩
  case congr =>
    intro cells' hsame
    refine h.readRow_congr (not_lt.1 fun hshort => ?_) fun i hi => (hsame i hi).2
    obtain ⟨i, hi, hle⟩ := h.exists_le_iff.2 hshort
    exact hle.not_gt (hsame i hi).1

/-! ## Reports -/

theorem Columns.tight_positional : positional.Tight := tight_of_foldl (by decide)

theorem Context.tight_next {c : Context} (h : c.columns.Tight) (kind : LineKind) :
    (c.next kind).columns.Tight := by
  cases kind with
  | context file => exact h
  | data cells => exact h
  | prose => exact h
  | header cells =>
    show ((Columns.ofHeader? cells).getD .positional).Tight
    cases hcolumns : Columns.ofHeader? cells with
    | none => exact Columns.tight_positional
    | some columns => exact (Columns.resolved_ofHeader? hcolumns).minCells

/-- **The columns of every context** need just the cells that are looked up. -/
theorem Context.tight_foldl_next {c : Context} (h : c.columns.Tight) (kinds : List LineKind) :
    (kinds.foldl Context.next c).columns.Tight := by
  induction kinds generalizing c with
  | nil => exact h
  | cons kind kinds ih => exact ih (Context.tight_next h kind)

/-- A header is recognised exactly if it names what is needed, and has the columns that it names first. -/
structure Recognises (header : List (List Char)) : Prop where
  isSome_iff : (Columns.ofHeader? header).isSome ↔ (∃ cell ∈ header, NamesNonzeros cell) ∧
    (∃ cell ∈ header, NamesWidth cell) ∧ ∃ kernel, ∃ cell ∈ header, NamesKernel kernel cell
  resolved : ∀ columns, Columns.ofHeader? header = some columns → Resolved header columns

/-- **Headers are resolved to columns that every row can be read in**: by position, and after any lines of a
report, a row is dropped as too short exactly if it lacks one of its columns. -/
theorem resolves_and_reads_within : (∀ header, Recognises header) ∧
    (∀ source cells, ReadsWithin .positional source cells) ∧
    ∀ (kinds : List LineKind) source cells,
      ReadsWithin (kinds.foldl Context.next .start).columns source cells := by
  refine ⟨fun header => ⟨Columns.isSome_ofHeader?_iff, fun columns => Columns.resolved_ofHeader?⟩,
    Columns.tight_positional.readsWithin, fun kinds => ?_⟩
  have hstart : Context.start.columns.Tight := Columns.tight_positional
  exact (Context.tight_foldl_next hstart kinds).readsWithin

end KernelCharts.Report
