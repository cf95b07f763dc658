import KernelCharts.Proofs.Report.Context
import KernelCharts.Proofs.Report.Header
import KernelCharts.Proofs.Report.Reading

/-!
# Reports that are read back

A report in its usual form is a list of blocks: a line that names a file, a header, and rows of values.
Reading such a report gives back what was written, whatever the order of the columns, the spelling of
their names, the blanks around the cells and the ends of the lines are.

* `ContextLine`, `Header`, `DataRow`, `Block` — the parts of a report, as they are written;
* `reportText` — the text of a report;
* `Recovers` — an extraction has what some blocks say;
* `outcomes_blocks` — every row of every block is accepted, under the file and the header of its block;
* `extract_reportText` — a report is read back as it was written.
-/

namespace KernelCharts.Report

/-! ## Parts of a report -/

/-- a line that names a file: a prefix, the word `file` with a colon, and a path -/
structure ContextLine where
  before : List Char
  directory : List Char
  file : FileName
  lineFeed : '\n' ∉ before
  wordless : ¬ fileWord <:+: before
  apart : before.getLast?.any Text.isWord = false
  isDirectory : IsDirectory directory

def ContextLine.line (context : ContextLine) : List Char :=
  context.before ++ (fileWord ++ (": ".toList ++ (context.directory ++ context.file.text)))

/-- a header: a first cell `M`, one cell for the numbers of nonzeros and one for the widths, a cell for
each of some kernels, and others -/
structure Header where
  headings : List Heading
  cells : List (List Char)
  names : List.Forall₂ Heading.Names headings cells
  marked : ∃ cell, cells.head? = some cell ∧ Shows cell ['M']
  nnz_once : headings.count .nnz = 1
  k_once : headings.count .k = 1
  distinct : (headings.filterMap Heading.kernel?).Nodup
  kernels_ne_nil : headings.filterMap Heading.kernel? ≠ []
  noFile : contextFile? (rowLine cells) = none

def Header.kernels (header : Header) : List Kernel := header.headings.filterMap Heading.kernel?

/-- a row of values below a header, with a cell for each of its columns -/
structure DataRow (header : Header) where
  measurement : Measurement
  cells : List (List Char)
  holds : List.Forall₂ (Heading.Holds measurement) header.headings cells
  nnz_pos : 0 < measurement.nnz
  nnz_lt : measurement.nnz < nnzLimit
  k_pos : 0 < measurement.k
  k_lt : measurement.k < widthLimit
  unmarked : ∀ cell ∈ cells.head?, cleanCell cell ≠ ['M']
  noFile : contextFile? (rowLine cells) = none

/-- a file with its header and its rows -/
structure Block where
  context : ContextLine
  header : Header
  rows : List (DataRow header)

def Block.lines (block : Block) : List (List Char) :=
  block.context.line :: rowLine block.header.cells :: block.rows.map fun row => rowLine row.cells

def reportLines (blocks : List Block) : List (List Char) := blocks.flatMap Block.lines

@[simp] theorem reportLines_cons (block : Block) (blocks : List Block) :
    reportLines (block :: blocks) = block.lines ++ reportLines blocks := List.flatMap_cons

/-- the text of a report, where `withReturn` tells of every line whether it ends in a carriage return
and a line feed, or in a line feed alone -/
def reportText (blocks : List Block) (withReturn : Nat → Bool) : String :=
  String.ofList
    ((reportLines blocks).zipIdx.flatMap fun line => line.1 ++ Text.ending (withReturn line.2))

/-! ## What a report says -/

/-- what a row of a report says, with the file and the kernels of its block -/
structure Entry where
  file : FileName
  kernels : List Kernel
  measurement : Measurement

def Block.entries (block : Block) : List Entry :=
  block.rows.map fun row => ⟨block.context.file, block.header.kernels, row.measurement⟩

/-- The row has what an entry says, and nothing about kernels that the header of its block does not
name. -/
structure Entry.ReadAs (entry : Entry) (row : Observation Float) : Prop where
  source : row.source = String.ofList entry.file.text
  nnz : row.nnz = entry.measurement.nnz
  k : row.k = some entry.measurement.k
  gflops : ∀ kernel, row.gflops kernel =
    if kernel ∈ entry.kernels then entry.measurement.gflops kernel else none

/-- the kernels of the last header; without one, those by position -/
def lastKernels (blocks : List Block) : List Kernel :=
  (blocks.getLast?.map (·.header.kernels)).getD Columns.positional.kernels

/-- An extraction has what some blocks say: all rows, in order, under the kernels of the blocks with rows
and of the last header. -/
structure Recovers (blocks : List Block) (e : Extraction) : Prop where
  rows : List.Forall₂ Entry.ReadAs (blocks.flatMap Block.entries) e.table.rows
  accepted : e.accepted = (blocks.flatMap Block.entries).length
  malformed : e.malformed = 0
  orphaned : e.orphaned = 0
  kernels : ∀ kernel, kernel ∈ e.table.kernels ↔
    kernel ∈ lastKernels blocks ∨ ∃ entry ∈ blocks.flatMap Block.entries, kernel ∈ entry.kernels
  conforms : ∀ row ∈ e.table.rows, row.Conforms e.table.kernels

/-! ## Lines -/

theorem ContextLine.contextFile?_line (context : ContextLine) :
    contextFile? context.line = some context.file.text :=
  contextFile?_path context.wordless (fun c hc => by simpa [hc] using context.apart) context.isDirectory
    context.file

theorem classify_rowLine {cells : List (List Char)} (hne : cells ≠ [])
    (hfits : ∀ cell ∈ cells, Fits cell) (hfile : contextFile? (rowLine cells) = none) :
    classify (rowLine cells) =
      if (cells.map cleanCell).head? = some ['M'] then .header (cells.map cleanCell)
      else .data (cells.map cleanCell) := by
  have hbar : (Text.trimStart (rowLine cells)).head? = some '|' := by
    rw [Text.trimStart_eq_self fun c hc => by cases hc; decide]
    rfl
  simp only [classify, hfile, hbar, splitRow_rowLine hne fun cell hcell => (hfits cell hcell).bar, ne_eq,
    not_true_eq_false, if_false]

namespace Header

variable (header : Header)

theorem fits : ∀ cell ∈ header.cells, Fits cell :=
  forall_right_of_forall₂ header.names fun _ _ h => h.fits

theorem cells_ne_nil : header.cells ≠ [] := by
  obtain ⟨cell, hcell, -⟩ := header.marked
  intro hnil
  rw [hnil] at hcell
  cases hcell

theorem headings_ne_nil : header.headings ≠ [] := by
  intro hnil
  have hnames := header.names
  rw [hnil] at hnames
  exact header.cells_ne_nil (List.forall₂_nil_left_iff.1 hnames)

theorem classify_line : classify (rowLine header.cells) = .header (header.cells.map cleanCell) := by
  obtain ⟨cell, hcell, hshows⟩ := header.marked
  have hmark : (header.cells.map cleanCell).head? = some ['M'] := by
    rw [List.head?_map, hcell, Option.map_some,
      hshows.cleanCell_eq (List.forall_mem_singleton.2 (by decide))]
  rw [classify_rowLine header.cells_ne_nil header.fits header.noFile, if_pos hmark]

/-- **A header has its columns where it names them.** -/
theorem exists_columns : ∃ columns, Columns.ofHeader? (header.cells.map cleanCell) = some columns ∧
    Resolves header.headings columns := by
  have htexts : (header.cells.map cleanCell).map headingOf = header.headings := by
    refine Eq.symm ?_
    rw [List.map_map, ← List.forall₂_eq_eq_eq, List.forall₂_map_right_iff]
    exact header.names.imp fun heading cell h => h.headingOf_eq.symm
  refine ofHeader?_resolves htexts ?_ ?_ header.distinct header.kernels_ne_nil
  · exact List.count_pos_iff.1 (header.nnz_once ▸ Nat.one_pos)
  · exact List.count_pos_iff.1 (header.k_once ▸ Nat.one_pos)

end Header

namespace DataRow

variable {header : Header} (row : DataRow header)

theorem fits : ∀ cell ∈ row.cells, Fits cell :=
  forall_right_of_forall₂ row.holds fun _ _ h => h.fits

theorem cells_ne_nil : row.cells ≠ [] := by
  intro hnil
  have hholds := row.holds
  rw [hnil] at hholds
  exact header.headings_ne_nil (List.forall₂_nil_right_iff.1 hholds)

theorem classify_line : classify (rowLine row.cells) = .data (row.cells.map cleanCell) := by
  have hmark : ¬ (row.cells.map cleanCell).head? = some ['M'] := by
    rw [List.head?_map, Option.map_eq_some_iff]
    rintro ⟨cell, hcell, hclean⟩
    exact row.unmarked cell hcell hclean
  rw [classify_rowLine row.cells_ne_nil row.fits row.noFile, if_neg hmark]

end DataRow

/-! ## Outcomes -/

theorem outcomes_append (c : Context) (kinds others : List LineKind) : outcomes c (kinds ++ others) =
    outcomes c kinds ++ outcomes (kinds.foldl Context.next c) others := by
  induction kinds generalizing c with
  | nil => rfl
  | cons kind kinds ih => simp only [List.cons_append, outcomes, List.foldl_cons, ih]

/-- The line is passed over, or its row is accepted. -/
def Outcome.Unremarked (outcome : Outcome) : Prop :=
  outcome = .passed ∨ ∃ observation, outcome = .accepted observation

/-- The row is what an entry says, before it gets into a table. -/
structure Entry.Makes (entry : Entry) (row : Observation Float) : Prop where
  source : row.source = String.ofList entry.file.text
  nnz : row.nnz = entry.measurement.nnz
  k : row.k = some entry.measurement.k
  throughput : ∀ kernel, row.throughput.get? kernel =
    if kernel ∈ entry.kernels then some (entry.measurement.gflops kernel) else none

/-- the context that the rows of a block are read in -/
def Block.settled (block : Block) : Context :=
  ⟨(Columns.ofHeader? (block.header.cells.map cleanCell)).getD .positional,
    some block.context.file.text⟩

theorem DataRow.outcome_eq {block : Block} (row : DataRow block.header) :
    ∃ observation, block.settled.outcome (.data (row.cells.map cleanCell)) = .accepted observation ∧
      Entry.Makes ⟨block.context.file, block.header.kernels, row.measurement⟩ observation := by
  obtain ⟨columns, hcolumns, hresolves⟩ := block.header.exists_columns
  obtain ⟨observation, hread, hsource, hnnz, hk, hgflops⟩ := hresolves.readRow row.holds
    ⟨row.nnz_pos, row.nnz_lt⟩ ⟨row.k_pos, row.k_lt⟩ (String.ofList block.context.file.text)
  refine ⟨observation, ?_, hsource, hnnz, hk, hgflops⟩
  simp only [Context.outcome, Block.settled, hcolumns, Option.getD_some, hread]

theorem outcomes_rows (block : Block) (rows : List (DataRow block.header)) : ∃ observations,
    outcomes block.settled (rows.map fun row => .data (row.cells.map cleanCell)) =
      observations.map .accepted ∧
    List.Forall₂ Entry.Makes
      (rows.map fun row => ⟨block.context.file, block.header.kernels, row.measurement⟩)
      observations := by
  induction rows with
  | nil => exact ⟨[], rfl, .nil⟩
  | cons row rows ih =>
    obtain ⟨observation, houtcome, hmakes⟩ := row.outcome_eq
    obtain ⟨observations, houtcomes, hforall⟩ := ih
    refine ⟨observation :: observations, ?_, .cons hmakes hforall⟩
    rw [List.map_cons, outcomes, houtcome, Context.next, houtcomes]
    rfl

theorem Block.map_classify_lines (block : Block) : block.lines.map classify =
    .context block.context.file.text :: .header (block.header.cells.map cleanCell) ::
      block.rows.map fun row => .data (row.cells.map cleanCell) := by
  have hcontext : classify block.context.line = .context block.context.file.text := by
    rw [classify, block.context.contextFile?_line]
  rw [Block.lines, List.map_cons, List.map_cons, hcontext, block.header.classify_line, List.map_map]
  congr 2
  exact List.map_congr_left fun row _ => row.classify_line

theorem Block.foldl_next (block : Block) (c : Context) :
    (block.lines.map classify).foldl Context.next c = block.settled := by
  have hrows : ∀ (rows : List (DataRow block.header)) (c : Context),
      (rows.map fun row => LineKind.data (row.cells.map cleanCell)).foldl Context.next c = c := by
    intro rows c
    induction rows with
    | nil => rfl
    | cons row rows ih => exact ih
  rw [block.map_classify_lines, List.foldl_cons, List.foldl_cons, hrows]
  rfl

/-- **Every row of a block is accepted**, whatever the lines before the block have settled. -/
theorem Block.outcomes_lines (block : Block) (c : Context) : ∃ observations,
    outcomes c (block.lines.map classify) = .passed :: .passed :: observations.map .accepted ∧
      List.Forall₂ Entry.Makes block.entries observations := by
  obtain ⟨observations, houtcomes, hmakes⟩ := outcomes_rows block block.rows
  obtain ⟨columns, hcolumns, -⟩ := block.header.exists_columns
  refine ⟨observations, ?_, hmakes⟩
  rw [block.map_classify_lines, outcomes, outcomes]
  have hheader : (c.next (.context block.context.file.text)).outcome
      (.header (block.header.cells.map cleanCell)) = .passed := by
    simp only [Context.outcome, hcolumns, Option.isSome_some, if_true]
  rw [hheader]
  exact congrArg (fun rest => .passed :: .passed :: rest) houtcomes

/-- **Every row of every block is accepted**, under the file and the header of its block. -/
theorem outcomes_blocks (blocks : List Block) (c : Context) :
    List.Forall₂ Entry.Makes (blocks.flatMap Block.entries)
      ((outcomes c ((reportLines blocks).map classify)).filterMap Outcome.row?) ∧
    ∀ outcome ∈ outcomes c ((reportLines blocks).map classify), outcome.Unremarked := by
  induction blocks generalizing c with
  | nil => exact ⟨.nil, by simp [reportLines, outcomes]⟩
  | cons block blocks ih =>
    obtain ⟨observations, hblock, hmakes⟩ := block.outcomes_lines c
    obtain ⟨hrest, hfate⟩ := ih block.settled
    have haccepted : (Outcome.passed :: .passed :: observations.map .accepted).filterMap Outcome.row? =
        observations := by
      rw [List.filterMap_cons_none rfl, List.filterMap_cons_none rfl, List.filterMap_map]
      exact List.filterMap_some
    rw [reportLines_cons, List.map_append, outcomes_append, hblock, block.foldl_next,
      List.filterMap_append, haccepted, List.flatMap_cons]
    refine ⟨List.rel_append hmakes hrest, fun outcome houtcome => ?_⟩
    rcases List.mem_append.1 houtcome with h | h
    · simp only [List.mem_cons, List.mem_map] at h
      rcases h with rfl | rfl | ⟨observation, -, rfl⟩
      · exact .inl rfl
      · exact .inl rfl
      · exact .inr ⟨observation, rfl⟩
    · exact hfate outcome h

/-- The last header settles the columns. -/
theorem kernels_foldl_next (blocks : List Block) (c : Context) :
    (((reportLines blocks).map classify).foldl Context.next c).columns.kernels =
      (blocks.getLast?.map (·.header.kernels)).getD c.columns.kernels := by
  induction blocks generalizing c with
  | nil => rfl
  | cons block blocks ih =>
    rw [reportLines_cons, List.map_append, List.foldl_append, block.foldl_next, ih, List.getLast?_cons]
    obtain ⟨columns, hcolumns, hresolves⟩ := block.header.exists_columns
    have hkernels : block.settled.columns.kernels = block.header.kernels := by
      rw [Block.settled, hcolumns, Option.getD_some, Columns.kernels, hresolves.throughput,
        map_fst_kernelPlaces]
      rfl
    rw [hkernels]
    cases blocks.getLast? <;> rfl

/-! ## Texts -/

namespace ContextLine

variable (context : ContextLine)

theorem lineFeed_not_mem_line : '\n' ∉ context.line := by
  have hdirectory : '\n' ∉ context.directory := fun h =>
    absurd (context.isDirectory.blankless _ h) (by decide)
  have hfile : '\n' ∉ context.file.text := fun h =>
    absurd (context.file.isNameChar_text _ h) (by decide)
  simp only [line, List.mem_append, not_or]
  exact ⟨context.lineFeed, by decide, by decide, hdirectory, hfile⟩

/-- The line ends in a letter or a digit. -/
theorem getLast?_line_ne : context.line.getLast? ≠ some '\r' := by
  intro h
  have hline : context.line = (context.before ++ (fileWord ++ (": ".toList ++ (context.directory ++
      (context.file.stem ++ ['.']))))) ++ context.file.extension := by
    simp only [line, FileName.text, List.append_assoc, List.singleton_append]
  rw [hline, List.getLast?_append_of_ne_nil _ context.file.extension_ne_nil] at h
  exact absurd (context.file.isAlphanumeric_extension _ (List.mem_of_getLast? h)) (by decide)

end ContextLine

theorem lineFeed_not_mem_reportLines {blocks : List Block} :
    ∀ line ∈ reportLines blocks, '\n' ∉ line := by
  intro line hline
  obtain ⟨block, -, hline⟩ := List.mem_flatMap.1 hline
  simp only [Block.lines, List.mem_cons, List.mem_map] at hline
  rcases hline with rfl | rfl | ⟨row, -, rfl⟩
  · exact block.context.lineFeed_not_mem_line
  · exact lineFeed_not_mem_rowLine fun cell hcell => (block.header.fits cell hcell).lineFeed
  · exact lineFeed_not_mem_rowLine fun cell hcell => (row.fits cell hcell).lineFeed

theorem getLast?_reportLines_ne {blocks : List Block} :
    ∀ line ∈ reportLines blocks, line.getLast? ≠ some '\r' := by
  intro line hline
  obtain ⟨block, -, hline⟩ := List.mem_flatMap.1 hline
  simp only [Block.lines, List.mem_cons, List.mem_map] at hline
  rcases hline with rfl | rfl | ⟨row, -, rfl⟩
  · exact block.context.getLast?_line_ne
  · rw [getLast?_rowLine]
    decide
  · rw [getLast?_rowLine]
    decide

/-- **The lines of a report are the lines that were written**, whatever their ends. -/
theorem lines_reportText (blocks : List Block) (withReturn : Nat → Bool) :
    Text.lines (reportText blocks withReturn).toList = reportLines blocks := by
  have hclosed : Text.lines (((reportLines blocks).zipIdx.map fun line =>
      (line.1, withReturn line.2)).flatMap fun line => line.1 ++ Text.ending line.2) =
      ((reportLines blocks).zipIdx.map fun line => (line.1, withReturn line.2)).map (·.1) := by
    refine Text.lines_flatMap_ending ?_ ?_
    · rw [List.forall_mem_map]
      exact fun line hline => lineFeed_not_mem_reportLines _ (List.fst_mem_of_mem_zipIdx hline)
    · rw [List.forall_mem_map]
      exact fun line hline => getLast?_reportLines_ne _ (List.fst_mem_of_mem_zipIdx hline)
  rw [List.flatMap_map, List.map_map] at hclosed
  rw [reportText, String.toList_ofList]
  exact hclosed.trans (List.zipIdx_map_fst 0 _)

namespace Entry.Makes

variable {entry : Entry} {row row' : Observation Float}

theorem readAs (h : entry.Makes row) (hsame : row.SameMeasurements row') : entry.ReadAs row' where
  source := hsame.source.trans h.source
  nnz := hsame.nnz.trans h.nnz
  k := hsame.k.trans h.k
  gflops := fun kernel => by
    rw [hsame.gflops, Observation.gflops, h.throughput]
    split <;> rfl

theorem mem_keys (h : entry.Makes row) {kernel : Kernel} :
    kernel ∈ entry.kernels ↔ kernel ∈ row.throughput.keys := by
  rw [KernelMap.mem_keys, h.throughput]
  split
  · next hnamed => exact iff_of_true hnamed rfl
  · next hnamed => exact iff_of_false hnamed Bool.false_ne_true

end Entry.Makes

theorem exists_mem_iff_of_forall₂ {β γ : Type} {R : β → γ → Prop} {p : β → Prop} {q : γ → Prop}
    (h : ∀ b c, R b c → (p b ↔ q c)) {l : List β} {m : List γ} (hlm : List.Forall₂ R l m) :
    (∃ b ∈ l, p b) ↔ ∃ c ∈ m, q c := by
  induction hlm with
  | nil => simp
  | cons hR _ ih => simp only [List.exists_mem_cons_iff, h _ _ hR, ih]

theorem mem_kernels_extractLines {kinds : List LineKind} {kernel : Kernel} :
    kernel ∈ (extractLines kinds).table.kernels ↔
      kernel ∈ (kinds.foldl Context.next .start).columns.kernels ∨
        ∃ row ∈ (outcomes .start kinds).filterMap Outcome.row?, kernel ∈ row.throughput.keys := by
  have hkernels : (extractLines kinds).table.kernels = Kernel.catalogued
      (Kernel.catalogued (kinds.foldl Context.next .start).columns.kernels ++ Kernel.catalogued
        (((outcomes .start kinds).filterMap Outcome.row?).flatMap (·.throughput.keys))) := rfl
  rw [hkernels, Kernel.mem_catalogued, List.mem_append, Kernel.mem_catalogued, Kernel.mem_catalogued,
    List.mem_flatMap]

theorem lineEvents_eq_nil {kinds : List LineKind}
    (h : ∀ outcome ∈ outcomes .start kinds, outcome.Unremarked) : lineEvents kinds = [] := by
  refine List.filterMap_eq_nil_iff.2 fun place hplace => ?_
  obtain ⟨outcome, line⟩ := place
  rcases h outcome (List.fst_mem_of_mem_zipIdx hplace) with rfl | ⟨observation, rfl⟩ <;> rfl

/-- **A report is read back as it was written**: no row is dropped and nothing is remarked. -/
theorem extract_reportText (blocks : List Block) (withReturn : Nat → Bool) : ∃ e,
    extract (Feed.ofBytes (reportText blocks withReturn).toUTF8.data.toList) = ([], .ok e) ∧
      Recovers blocks e := by
  obtain ⟨hmakes, hfate⟩ := outcomes_blocks blocks .start
  have hextract := extract_text (reportText blocks withReturn)
  rw [lines_reportText, lineEvents_eq_nil hfate] at hextract
  refine ⟨_, hextract, ?_⟩
  generalize hkinds : (reportLines blocks).map classify = kinds at *
  have hnone : ∀ fate : Outcome → Bool, fate .passed = false → (∀ row, fate (.accepted row) = false) →
      (outcomes .start kinds).countP fate = 0 := by
    intro fate hpassed haccepted
    rw [List.countP_eq_zero]
    intro outcome houtcome
    rcases hfate outcome houtcome with rfl | ⟨observation, rfl⟩
    · simp [hpassed]
    · simp [haccepted]
  constructor
  case rows => exact forall₂_comp (fun _ _ _ h => h.readAs) hmakes (forall₂_extractLines kinds)
  case accepted => exact hmakes.length_eq.symm
  case malformed => exact hnone _ rfl fun _ => rfl
  case orphaned => exact hnone _ rfl fun _ => rfl
  case kernels =>
    intro kernel
    rw [mem_kernels_extractLines, exists_mem_iff_of_forall₂ (fun _ _ h => h.mem_keys) hmakes, ← hkinds,
      kernels_foldl_next]
    rfl
  case conforms =>
    exact (Table.Built.merge (.ofKernels _) (.ofRows _)).wellFormed.conforms

/-! ## A report -/

theorem shows_of_all {cell before text after : List Char} (hcell : cell = before ++ text ++ after)
    (hbefore : before.all isPadding = true) (hafter : after.all isPadding = true) : Shows cell text :=
  ⟨before, after, hcell, List.all_eq_true.1 hbefore, List.all_eq_true.1 hafter⟩

def sampleHeader : Header where
  headings := [.other, .nnz, .kernel .zcx, .k]
  cells := ["M".toList, " nnz".toList, "ZCX_gflops ".toList, "k".toList]
  names :=
    have hnnz : Shows " nnz".toList "nnz".toList :=
      shows_of_all (show _ = " ".toList ++ "nnz".toList ++ [] by decide) (by decide) (by decide)
    have hzcx : Shows "ZCX_gflops ".toList "ZCX_gflops".toList :=
      shows_of_all (show _ = [] ++ "ZCX_gflops".toList ++ " ".toList by decide) (by decide) (by decide)
    have hk : Shows "k".toList "k".toList :=
      shows_of_all (show _ = [] ++ "k".toList ++ [] by decide) (by decide) (by decide)
    .cons ⟨⟨by decide, by decide⟩, by decide, by decide, by decide⟩ <| .cons ⟨_, hnnz, by decide⟩ <|
      .cons ⟨_, hzcx, .inr (by decide)⟩ <| .cons ⟨_, hk, by decide⟩ .nil
  marked := ⟨_, rfl, shows_of_all (show _ = [] ++ ['M'] ++ [] by decide) (by decide) (by decide)⟩
  nnz_once := by decide
  k_once := by decide
  distinct := by decide
  kernels_ne_nil := by decide
  noFile := by decide

/-- a row with a measured throughput, and leading zeros -/
def sampleRow : DataRow sampleHeader where
  measurement := ⟨100, 32, fun _ => throughput? "12.5".toList⟩
  cells := ["1".toList, " 0100 ".toList, "12.5".toList, "32".toList]
  holds :=
    have hnnz : Shows " 0100 ".toList "0100".toList :=
      shows_of_all (show _ = " ".toList ++ "0100".toList ++ " ".toList by decide) (by decide) (by decide)
    have hk : Shows "32".toList "32".toList :=
      shows_of_all (show _ = [] ++ "32".toList ++ [] by decide) (by decide) (by decide)
    have hzcx : ShowsThroughput "12.5".toList (throughput? "12.5".toList) := by
      obtain ⟨x, hx⟩ : ∃ x, throughput? "12.5".toList = some x :=
        Option.isSome_iff_exists.1 (by decide +kernel)
      rw [hx]
      exact ⟨_, shows_of_all (show _ = [] ++ _ ++ [] by decide) (by decide) (by decide), hx⟩
    .cons ⟨by decide, by decide⟩ <|
      .cons ⟨_, hnnz, by decide, List.all_eq_true.1 (by decide), by decide⟩ <| .cons hzcx <|
        .cons ⟨_, hk, Number.isDecimal_repr 32⟩ .nil
  nnz_pos := by decide
  nnz_lt := by decide
  k_pos := by decide
  k_lt := by decide
  unmarked := by decide
  noFile := by decide

def sampleBlock : Block where
  context := {
    before := "## M : 1, ".toList
    directory := "/data/v1.2/".toList
    file := ⟨"a".toList, "mtx".toList, by decide, List.all_eq_true.1 (by decide), by decide,
      List.all_eq_true.1 (by decide)⟩
    lineFeed := by decide
    wordless := by decide +kernel
    apart := by decide +kernel
    isDirectory := ⟨.inr ⟨"/data/v1.2".toList, by decide⟩, Text.blankless_of_any (by decide)⟩ }
  header := sampleHeader
  rows := [sampleRow]

theorem extract_reportText_sampleBlock :
    (reportText [sampleBlock] (· == 1)).toList =
      "## M : 1, file: /data/v1.2/a.mtx\n|M| nnz|ZCX_gflops |k|\r\n|1| 0100 |12.5|32|\n".toList ∧
    ∃ e, extract (Feed.ofBytes (reportText [sampleBlock] (· == 1)).toUTF8.data.toList) = ([], .ok e) ∧
      Recovers [sampleBlock] e := by
  refine ⟨?_, extract_reportText [sampleBlock] (· == 1)⟩
  rw [reportText, String.toList_ofList]
  decide +kernel

end KernelCharts.Report
