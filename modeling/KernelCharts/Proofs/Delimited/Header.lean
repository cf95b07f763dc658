import KernelCharts.Delimited.Columns
import KernelCharts.Proofs.Delimited.Fields
import KernelCharts.Proofs.Extraction.Cell
import KernelCharts.Proofs.Extraction.Header
import KernelCharts.Proofs.Kernel.Names

/-!
# Headers and the records below them

* `Heading`, `Heading.Spells`, `Heading.Names` — what a column holds, and the fields that name it;
* `Spells.unique` — a text names one column at most;
* `Resolves`, `ofHeader_resolves` — the columns that a header has;
* `Entry`, `Heading.Holds`, `Resolves.readRecord_eq` — a record is read as its fields say.
-/

namespace KernelCharts.Delimited

/-! ## Headings -/

inductive Heading where
  | source
  | nnz
  | k
  | kernel (kernel : Kernel)
  | other
deriving DecidableEq, Repr

namespace Heading

def kernel? : Heading → Option Kernel
  | kernel named => some named
  | source | nnz | k | other => none

theorem kernel?_eq_some_iff {heading : Heading} {named : Kernel} :
    heading.kernel? = some named ↔ heading = kernel named := by
  cases heading <;> simp [kernel?]

def words : Heading → List (List Char)
  | source => ["file".toList, "source_id".toList, "matrix".toList]
  | nnz => ["NNZ".toList]
  | k => ["K".toList]
  | kernel named => [named.name.toList, named.name.toList ++ Kernel.unit]
  | other => []

/-- The text is one of the words that name a column, in any case. -/
def Spells (heading : Heading) (text : List Char) : Prop :=
  ∃ word ∈ heading.words, Text.sameLetters text word = true

instance (heading : Heading) (text : List Char) : Decidable (heading.Spells text) :=
  inferInstanceAs (Decidable (∃ word ∈ heading.words, Text.sameLetters text word = true))

/-- The field of a header names the column: one of its words with blanks around it, or, in a column of
no interest, a text that names none of the others. -/
def Names (heading : Heading) (field : List Char) : Prop :=
  ∃ text, Shows field text ∧
    if heading = other then ∀ named : Heading, ¬ named.Spells text else heading.Spells text

def worded : List Heading := [source, nnz, k] ++ Kernel.all.map kernel

theorem mem_worded {heading : Heading} {text : List Char} (h : heading.Spells text) :
    heading ∈ worded := by
  obtain ⟨word, hword, -⟩ := h
  cases heading with
  | other => cases hword
  | kernel named => exact List.mem_append_right _ (List.mem_map_of_mem (Kernel.mem_all named))
  | _ => decide

/-- **A text names one column at most**: no two columns have a word in common, in any case. -/
theorem Spells.unique {heading heading' : Heading} {text : List Char} (h : heading.Spells text)
    (h' : heading'.Spells text) : heading = heading' := by
  have hwords : ∀ heading ∈ worded, ∀ heading' ∈ worded, ∀ word ∈ heading.words,
      ∀ word' ∈ heading'.words, word.map Char.toLower = word'.map Char.toLower →
        heading = heading' := by
    decide +kernel
  obtain ⟨word, hword, hletters⟩ := id h
  obtain ⟨word', hword', hletters'⟩ := id h'
  simp only [Text.sameLetters, beq_iff_eq] at hletters hletters'
  exact hwords heading (mem_worded h) heading' (mem_worded h') word hword word' hword'
    (hletters.symm.trans hletters')

/-- What a field names can be decided. -/
theorem names_iff {heading : Heading} {field : List Char} : heading.Names field ↔
    if heading = other then ∀ named ∈ worded, ¬ named.Spells (Text.trim field)
    else heading.Spells (Text.trim field) := by
  have hnames : heading.Names field ↔
      if heading = other then ∀ named : Heading, ¬ named.Spells (Text.trim field)
      else heading.Spells (Text.trim field) := by
    constructor
    · rintro ⟨text, hshows, htext⟩
      rwa [hshows.trim_eq]
    · exact fun htext => ⟨_, shows_iff.2 rfl, htext⟩
  have hworded : (∀ named : Heading, ¬ named.Spells (Text.trim field)) ↔
      ∀ named ∈ worded, ¬ named.Spells (Text.trim field) := by
    constructor
    · exact fun h named _ => h named
    · exact fun h named hspells => h named (mem_worded hspells) hspells
  rw [hnames, hworded]

instance (heading : Heading) (field : List Char) : Decidable (heading.Names field) :=
  decidable_of_iff _ names_iff.symm

theorem spells_kernel_iff {named : Kernel} {text : List Char} :
    (kernel named).Spells text ↔ named.Spells text := by
  simp [Spells, words, Kernel.Spells]

/-- What a field names is what its text spells. -/
theorem Names.spells_iff {heading named : Heading} {field : List Char} (h : heading.Names field) :
    named.Spells (Text.trim field) ↔ heading = named ∧ heading ≠ other := by
  obtain ⟨text, hshows, htext⟩ := h
  rw [hshows.trim_eq]
  by_cases hother : heading = other
  · rw [if_pos hother] at htext
    exact iff_of_false (htext named) fun hnamed => hnamed.2 hother
  · rw [if_neg hother] at htext
    constructor
    · intro hspells
      exact ⟨htext.unique hspells, hother⟩
    · rintro ⟨rfl, -⟩
      exact htext

theorem Names.ofName?_eq {heading : Heading} {field : List Char} (h : heading.Names field) :
    Kernel.ofName? (Text.trim field) = heading.kernel? := by
  obtain ⟨text, hshows, -⟩ := id h
  apply Option.ext
  intro named
  rw [Kernel.ofName?_eq_some_iff, kernel?_eq_some_iff, ← spells_kernel_iff, hshows.trim_eq,
    hshows.trim_text, ← hshows.trim_eq, h.spells_iff, and_iff_left_iff_imp]
  rintro rfl
  exact Heading.noConfusion

end Heading

/-! ## Columns -/

section Columns

variable {headings : List Heading} {names : List (List Char)}

theorem any_sameLetters_iff {words : List String} {heading : Heading}
    (hwords : words.map String.toList = heading.words) {text : List Char} :
    (words.any fun word => Text.sameLetters text word.toList) = true ↔ heading.Spells text := by
  rw [Heading.Spells, ← hwords, List.any_eq_true]
  simp only [List.mem_map, exists_exists_and_eq_and]

/-- A column is found where its heading is. -/
theorem column?_eq (words : List String) (heading : Heading)
    (hwords : words.map String.toList = heading.words) (hother : heading ≠ .other)
    (hnames : List.Forall₂ Heading.Names headings names) :
    column? words (names.map Text.trim) = headings.findIdx? (· = heading) := by
  rw [column?, List.findIdx?_map]
  refine findIdx?_eq_of_forall₂ ?_ hnames
  intro named name hname
  rw [Function.comp_apply, Bool.eq_iff_iff, any_sameLetters_iff hwords, hname.spells_iff,
    decide_eq_true_eq, and_iff_left_iff_imp]
  rintro rfl
  exact hother

theorem map_ofName?_eq (hnames : List.Forall₂ Heading.Names headings names) :
    (names.map Text.trim).map Kernel.ofName? = headings.map Heading.kernel? := by
  rw [List.map_map]
  exact map_eq_of_forall₂ (fun _ _ hname => hname.ofName?_eq) hnames

/-- The kernels that a header names are those of its headings. -/
theorem filterMap_ofName?_eq (hnames : List.Forall₂ Heading.Names headings names) :
    (names.map Text.trim).filterMap Kernel.ofName? = headings.filterMap Heading.kernel? := by
  calc (names.map Text.trim).filterMap Kernel.ofName?
      = ((names.map Text.trim).map Kernel.ofName?).filterMap id :=
        (List.filterMap_map (f := Kernel.ofName?) (g := id)).symm
    _ = (headings.map Heading.kernel?).filterMap id := by rw [map_ofName?_eq hnames]
    _ = headings.filterMap Heading.kernel? := List.filterMap_map

theorem places_ofName?_eq (hnames : List.Forall₂ Heading.Names headings names) :
    places Kernel.ofName? (names.map Text.trim) = places Heading.kernel? headings := by
  calc places Kernel.ofName? (names.map Text.trim)
      = places id ((names.map Text.trim).map Kernel.ofName?) := (places_map id _ _).symm
    _ = places id (headings.map Heading.kernel?) := by rw [map_ofName?_eq hnames]
    _ = places Heading.kernel? headings := places_map id _ _

/-- The columns stand where the headings of a header do. -/
structure Resolves (headings : List Heading) (columns : Columns) : Prop where
  source : headings[columns.source]? = some .source
  nnz : headings[columns.nnz]? = some .nnz
  k : columns.k = headings.findIdx? (· = .k)
  throughput : columns.throughput = places Heading.kernel? headings

/-- **A header that names the columns that are needed has them where they are named.** -/
theorem ofHeader_resolves (hnames : List.Forall₂ Heading.Names headings names)
    (hsource : .source ∈ headings) (hnnz : .nnz ∈ headings)
    (hdistinct : (headings.filterMap Heading.kernel?).Nodup) :
    ∃ columns, Columns.ofHeader (names.map Text.trim) = .ok columns ∧ Resolves headings columns := by
  obtain ⟨source, hsourceColumn, hsourcePlace⟩ := exists_findIdx?_of_mem hsource
  obtain ⟨nnz, hnnzColumn, hnnzPlace⟩ := exists_findIdx?_of_mem hnnz
  rw [← column?_eq sourceNames .source rfl Heading.noConfusion hnames] at hsourceColumn
  rw [← column?_eq ["NNZ"] .nnz rfl Heading.noConfusion hnames] at hnnzColumn
  have hk := column?_eq ["K"] .k rfl Heading.noConfusion hnames
  have hkernels : kernelColumns (names.map Text.trim) = places Heading.kernel? headings := by
    rw [← filterMap_ofName?_eq hnames] at hdistinct
    rw [kernelColumns_eq_places hdistinct, places_ofName?_eq hnames]
  refine ⟨⟨source, nnz, headings.findIdx? (· = .k), places Heading.kernel? headings⟩, ?_,
    hsourcePlace, hnnzPlace, rfl, rfl⟩
  rw [Columns.ofHeader, hsourceColumn, hnnzColumn, hk, hkernels]

end Columns

/-! ## Records -/

structure Entry where
  source : String
  nnz : Nat
  k : Option Nat
  gflops : Kernel → Option Float

/-- The text states a width: it is a numeral of it, or is empty if there is none. -/
def StatesWidth (text : List Char) : Option Nat → Prop
  | none => text = []
  | some k => Number.IsDecimal text k

/-- The field says what a record has in the column, with blanks around it, or is any field in a column of
no interest. -/
def Heading.Holds (entry : Entry) : Heading → List Char → Prop
  | source, field => Shows field entry.source.toList
  | nnz, field => ∃ text, Shows field text ∧ Number.IsDecimal text entry.nnz
  | k, field => ∃ text, Shows field text ∧ StatesWidth text entry.k
  | kernel named, field => ∃ text, Shows field text ∧ StatesThroughput text (entry.gflops named)
  | other, _ => True

/-- the width of a record: the label, or else what its column says, if there is one -/
def Entry.width (entry : Entry) (headings : List Heading) (label : Option Nat) : Option Nat :=
  label.or (if .k ∈ headings then entry.k else none)

def Entry.observation (entry : Entry) (headings : List Heading) (label : Option Nat) :
    Observation Float where
  source := entry.source
  nnz := entry.nnz
  k := entry.width headings label
  throughput := .restrict (headings.filterMap Heading.kernel?) entry.gflops

theorem Columns.readRecord_eq {columns : Columns} {label k : Option Nat} {cells : List (List Char)}
    {nnz : Nat} (hsource : cells.getD columns.source [] ≠ [])
    (hnnz : readCount nnzLimit "NNZ" (cells.getD columns.nnz []) = .ok nnz)
    (hk : readWidth label (columns.k.map fun index => cells.getD index []) = .ok k) :
    columns.readRecord label cells =
      readThroughputs (columns.throughput.map fun column => (column.1, cells.getD column.2 []))
        ⟨String.ofList (cells.getD columns.source []), nnz, k, ∅⟩ := by
  have hempty : (cells.getD columns.source []).isEmpty = false := List.isEmpty_eq_false_iff.2 hsource
  simp only [readRecord, hempty, hnnz, hk]
  rfl

theorem readWidth_label (k : Nat) (cell : Option (List Char)) :
    Columns.readWidth (some k) cell = .ok (some k) := by
  cases cell <;> rfl

/-- A width is read from the texts that state it. -/
theorem StatesWidth.readWidth_eq {text : List Char} {k : Option Nat} (h : StatesWidth text k)
    (hk : ∀ n ∈ k, 0 < n ∧ n < widthLimit) : Columns.readWidth none (some text) = .ok k := by
  cases k with
  | none =>
    have hnil : text = [] := h
    rw [hnil]
    rfl
  | some n =>
    have hdecimal : Number.IsDecimal text n := h
    obtain ⟨hpos, hlt⟩ := hk n rfl
    have hcount := Number.count?_of_isDecimal hdecimal hpos hlt
    cases text with
    | nil => exact absurd rfl hdecimal.ne_nil
    | cons c cs =>
      simp only [Columns.readWidth, readCount, hcount]
      rfl

namespace Resolves

variable {headings : List Heading} {columns : Columns} {entry : Entry} {fields : List (List Char)}

/-- the text below a heading -/
theorem exists_field (hfields : List.Forall₂ (Heading.Holds entry) headings fields) {i : Nat}
    {heading : Heading} (hi : headings[i]? = some heading) :
    ∃ field, (fields.map Text.trim).getD i [] = Text.trim field ∧ heading.Holds entry field := by
  obtain ⟨field, hfield, hholds⟩ := exists_getElem?_of_forall₂ hfields hi
  exact ⟨field, by simp [hfield], hholds⟩

theorem source_eq (h : Resolves headings columns)
    (hfields : List.Forall₂ (Heading.Holds entry) headings fields) :
    (fields.map Text.trim).getD columns.source [] = entry.source.toList := by
  obtain ⟨field, hfield, hholds⟩ := exists_field hfields h.source
  have hshows : Shows field entry.source.toList := hholds
  rw [hfield, hshows.trim_eq]

theorem readCount_eq (h : Resolves headings columns)
    (hfields : List.Forall₂ (Heading.Holds entry) headings fields)
    (hnnz : 0 < entry.nnz ∧ entry.nnz < nnzLimit) :
    readCount nnzLimit "NNZ" ((fields.map Text.trim).getD columns.nnz []) = .ok entry.nnz := by
  obtain ⟨field, hfield, text, hshows, hdecimal⟩ := exists_field hfields h.nnz
  rw [hfield, hshows.trim_eq, readCount, Number.count?_of_isDecimal hdecimal hnnz.1 hnnz.2]

/-- **The label of a table goes before the column of the widths**, which may be empty or missing. -/
theorem readWidth_eq (h : Resolves headings columns)
    (hfields : List.Forall₂ (Heading.Holds entry) headings fields)
    (hk : ∀ k ∈ entry.k, 0 < k ∧ k < widthLimit) (label : Option Nat) :
    Columns.readWidth label (columns.k.map fun index => (fields.map Text.trim).getD index []) =
      .ok (entry.width headings label) := by
  cases label with
  | some k => exact readWidth_label k _
  | none =>
    rw [Entry.width, Option.none_or, h.k]
    by_cases hmem : .k ∈ headings
    · obtain ⟨i, hcolumn, hplace⟩ := exists_findIdx?_of_mem hmem
      obtain ⟨field, hfield, text, hshows, hstates⟩ := exists_field hfields hplace
      rw [if_pos hmem, hcolumn, Option.map_some, hfield, hshows.trim_eq, hstates.readWidth_eq hk]
    · have hcolumn : headings.findIdx? (· = .k) = none := by
        rw [List.findIdx?_eq_none_iff]
        intro heading hheading
        refine decide_eq_false ?_
        rintro rfl
        exact hmem hheading
      rw [if_neg hmem, hcolumn]
      rfl

theorem readThroughput_eq (h : Resolves headings columns)
    (hfields : List.Forall₂ (Heading.Holds entry) headings fields) :
    ∀ cell ∈ columns.throughput.map fun column =>
      (column.1, (fields.map Text.trim).getD column.2 []),
    readThroughput cell.1.name cell.2 = .ok (entry.gflops cell.1) := by
  rw [h.throughput, List.forall_mem_map]
  intro place hplace
  obtain ⟨heading, hheading, hkernel⟩ := mem_places.1 hplace
  rw [Heading.kernel?_eq_some_iff.1 hkernel] at hheading
  obtain ⟨field, hfield, text, hshows, hstates⟩ := exists_field hfields hheading
  rw [hfield, hshows.trim_eq, hstates.readThroughput_eq]

/-- **A record is read as its fields say.** -/
theorem readRecord_eq (h : Resolves headings columns)
    (hfields : List.Forall₂ (Heading.Holds entry) headings fields) (hsource : entry.source ≠ "")
    (hnnz : 0 < entry.nnz ∧ entry.nnz < nnzLimit) (hk : ∀ k ∈ entry.k, 0 < k ∧ k < widthLimit)
    (label : Option Nat) :
    columns.readRecord label (fields.map Text.trim) = .ok (entry.observation headings label) := by
  have hsourceCell : (fields.map Text.trim).getD columns.source [] ≠ [] := by
    rw [h.source_eq hfields]
    simpa using hsource
  obtain ⟨row, hread, hrowSource, hrowNnz, hrowK, hgflops⟩ := exists_readThroughputs
    (h.readThroughput_eq hfields) ⟨entry.source, entry.nnz, entry.width headings label, ∅⟩
  have hkernels : columns.throughput.map (·.1) = headings.filterMap Heading.kernel? := by
    rw [h.throughput, map_fst_places]
  have hrow : row = entry.observation headings label := by
    have hthroughput : row.throughput = (entry.observation headings label).throughput := by
      apply KernelMap.ext
      intro kernel
      rw [hgflops, List.map_map, Entry.observation, KernelMap.get?_restrict, KernelMap.get?_empty,
        ← hkernels]
      rfl
    cases row
    cases hrowSource
    cases hrowNnz
    cases hrowK
    cases hthroughput
    rfl
  rw [Columns.readRecord_eq hsourceCell (h.readCount_eq hfields hnnz)
    (h.readWidth_eq hfields hk label), h.source_eq hfields, String.ofList_toList, hread, hrow]

end Resolves

end KernelCharts.Delimited
