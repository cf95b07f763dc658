import KernelCharts.Delimited.Extract
import KernelCharts.Proofs.Delimited.Header
import KernelCharts.Proofs.Table.Merge

/-!
# What a table of records says

Here the meaning of a record is said of its fields and of the header alone.  Each heading counts in the
first column that has it; a record that is shorter than the header goes on with empty fields, and fields
beyond the header count for nothing.

* `Heading.column?`, `Heading.cell?` — the first column with a heading, and what a record has there;
* `ofHeader_eq_ok_iff`, `Locates` — the columns that are found under a header;
* `Describes`, `Locates.readRecord_eq_ok_iff` — the row that the fields of a record describe;
* `Says`, `Readable`, `outcome_eq_accepted_iff` — the records that are accepted;
* `Reads`, `reads_extractRecords` — the records below a header are read one by one, and those that say
  nothing are dropped.
-/

namespace KernelCharts.Delimited

open Utf8 (encode)

/-! ## Columns -/

def Heading.column? (heading : Heading) (header : List (List Char)) : Option Nat :=
  header.findIdx? fun name => heading.Spells (Text.trim name)

/-- what a record has in the first column with a heading -/
def Heading.cell? (heading : Heading) (header fields : List (List Char)) : Option (List Char) :=
  ((header.zip (fields ++ List.replicate header.length [])).find? fun column =>
    heading.Spells (Text.trim column.1)).map fun column => Text.trim column.2

theorem find?_zip_replicate {β γ : Type} {p : β → Bool} {d : γ} {l : List β} {m : List γ} {n : Nat}
    (hn : l.length ≤ n) :
    ((l.zip (m ++ List.replicate n d)).find? fun pair => p pair.1).map (·.2) =
      (l.findIdx? p).map fun i => m.getD i d := by
  induction l generalizing m n with
  | nil => simp
  | cons b l ih =>
    obtain ⟨n, rfl⟩ : ∃ k, n = k + 1 := ⟨n - 1, by rw [List.length_cons] at hn; omega⟩
    simp only [List.length_cons, Nat.add_le_add_iff_right] at hn
    cases m with
    | nil =>
      have hrest := ih (m := []) hn
      rw [List.nil_append] at hrest
      rw [List.nil_append, List.replicate_succ, List.zip_cons_cons, List.find?_cons, List.findIdx?_cons]
      cases p b with
      | true => simp
      | false => simp [hrest, Function.comp_def]
    | cons c m =>
      have hrest := ih (m := m) (n := n + 1) (by omega)
      rw [List.cons_append, List.zip_cons_cons, List.find?_cons, List.findIdx?_cons]
      cases p b with
      | true => simp
      | false => simp [hrest, Function.comp_def]

theorem Heading.cell?_eq (heading : Heading) (header fields : List (List Char)) :
    heading.cell? header fields =
      (heading.column? header).map fun i => (fields.map Text.trim).getD i [] := by
  have hfind := find?_zip_replicate (p := fun name => decide (heading.Spells (Text.trim name)))
    (d := ([] : List Char)) (m := fields) (Nat.le_refl header.length)
  have htrim : ∀ i, (fields.map Text.trim).getD i [] = Text.trim (fields.getD i []) := by
    intro i
    cases hi : fields[i]? <;> simp [hi]
  have hmap := congrArg (Option.map Text.trim) hfind
  simp only [Option.map_map] at hmap
  simp only [cell?, column?, htrim]
  exact hmap

theorem isSome_column?_iff {heading : Heading} {header : List (List Char)} :
    (heading.column? header).isSome = true ↔ ∃ name ∈ header, heading.Spells (Text.trim name) := by
  rw [Heading.column?, List.findIdx?_isSome, List.any_eq_true]
  simp only [decide_eq_true_eq]

theorem column?_trim (words : List String) (heading : Heading)
    (hwords : words.map String.toList = heading.words) (header : List (List Char)) :
    column? words (header.map Text.trim) = heading.column? header := by
  rw [column?, List.findIdx?_map, Heading.column?]
  congr 1
  funext name
  rw [Function.comp_apply, Bool.eq_iff_iff, any_sameLetters_iff hwords, decide_eq_true_eq]

theorem findIdx?_ofName? (named : Kernel) (header : List (List Char)) :
    (header.map Text.trim).findIdx? (fun name => Kernel.ofName? name = some named) =
      (Heading.kernel named).column? header := by
  rw [List.findIdx?_map, Heading.column?]
  congr 1
  funext name
  have htrim : Text.trim (Text.trim name) = Text.trim name := (shows_iff.2 rfl).trim_text
  rw [Function.comp_apply, Bool.eq_iff_iff, decide_eq_true_eq, decide_eq_true_eq,
    Kernel.ofName?_eq_some_iff, htrim, Heading.spells_kernel_iff]

/-- **When columns are found under a header, and which.** -/
theorem ofHeader_eq_ok_iff {header : List (List Char)} {columns : Columns} :
    Columns.ofHeader (header.map Text.trim) = .ok columns ↔
      Heading.source.column? header = some columns.source ∧
        Heading.nnz.column? header = some columns.nnz ∧ Heading.k.column? header = columns.k ∧
          kernelColumns (header.map Text.trim) = columns.throughput := by
  have hsource := column?_trim sourceNames .source rfl header
  have hnnz := column?_trim ["NNZ"] .nnz rfl header
  have hk := column?_trim ["K"] .k rfl header
  rw [Columns.ofHeader, hsource, hnnz, hk]
  cases Heading.source.column? header with
  | none => simp
  | some source =>
    cases Heading.nnz.column? header with
    | none => simp
    | some nnz =>
      cases columns
      simp

theorem exists_columns_iff {header : List (List Char)} :
    (∃ columns, Columns.ofHeader (header.map Text.trim) = .ok columns) ↔
      (Heading.source.column? header).isSome = true ∧ (Heading.nnz.column? header).isSome = true := by
  simp only [ofHeader_eq_ok_iff, Option.isSome_iff_exists]
  constructor
  · rintro ⟨columns, hsource, hnnz, -⟩
    exact ⟨⟨_, hsource⟩, ⟨_, hnnz⟩⟩
  · rintro ⟨⟨source, hsource⟩, ⟨nnz, hnnz⟩⟩
    exact ⟨⟨source, nnz, _, _⟩, hsource, hnnz, rfl, rfl⟩

/-- The columns are the first ones of a header with the headings of what they hold. -/
structure Locates (header : List (List Char)) (columns : Columns) : Prop where
  source : Heading.source.column? header = some columns.source
  nnz : Heading.nnz.column? header = some columns.nnz
  k : Heading.k.column? header = columns.k
  throughput : ∀ kernel i, (kernel, i) ∈ columns.throughput ↔
    (Heading.kernel kernel).column? header = some i
  distinct : columns.kernels.Nodup

theorem locates_of_ofHeader {header : List (List Char)} {columns : Columns}
    (h : Columns.ofHeader (header.map Text.trim) = .ok columns) : Locates header columns := by
  obtain ⟨hsource, hnnz, hk, hkernels⟩ := ofHeader_eq_ok_iff.1 h
  refine ⟨hsource, hnnz, hk, ?_, ?_⟩
  · intro kernel i
    rw [← hkernels, mem_kernelColumns, findIdx?_ofName?]
  · rw [Columns.kernels, ← hkernels]
    exact nodup_kernelColumns _

/-! ## Rows -/

/-- The width of a row is the label of the table, or else what its column says, if there is one. -/
def StatesLabelled (label : Option Nat) (cell? : Option (List Char)) (k : Option Nat) : Prop :=
  match label, cell? with
  | some width, _ => k = some width
  | none, none => k = none
  | none, some text => text = [] ∧ k = none ∨ ∃ width, Number.IsCount widthLimit text width ∧ k = some width

/-- A row lists the kernels that have a column, with the throughput that the column states. -/
def StatesEntry (cell? : Option (List Char)) (entry : Option (Option Float)) : Prop :=
  match cell? with
  | none => entry = none
  | some text => text = [] ∧ entry = some none ∨ ∃ x, IsThroughput text x ∧ entry = some (some x)

/-- The fields of a record describe a row: there is a matrix and a positive number of nonzeros, a width that
is positive or left open, and a throughput for every kernel that was measured. -/
structure Describes (header fields : List (List Char)) (label : Option Nat) (row : Observation Float) :
    Prop where
  source : ∃ text, Heading.source.cell? header fields = some text ∧ text ≠ [] ∧
    row.source = String.ofList text
  nnz : ∃ text, Heading.nnz.cell? header fields = some text ∧ Number.IsCount nnzLimit text row.nnz
  k : StatesLabelled label (Heading.k.cell? header fields) row.k
  throughput : ∀ kernel, StatesEntry ((Heading.kernel kernel).cell? header fields)
    (row.throughput.get? kernel)

theorem readWidth_eq_ok_iff {label k : Option Nat} {cell? : Option (List Char)} :
    Columns.readWidth label cell? = .ok k ↔ StatesLabelled label cell? k := by
  cases label with
  | some width =>
    rw [readWidth_label, Except.ok.injEq]
    exact eq_comm
  | none =>
    rcases cell? with _ | _ | ⟨c, cs⟩
    · simp [Columns.readWidth, StatesLabelled, eq_comm]
    · have hcount : ∀ width, ¬ Number.IsCount widthLimit [] width := by
        intro width h
        have hread := Number.count?_eq_some_iff.2 h
        cases hread
      simp [Columns.readWidth, StatesLabelled, hcount, eq_comm]
    · simp only [Columns.readWidth, readCount, StatesLabelled, ← Number.count?_eq_some_iff]
      cases Number.count? widthLimit (c :: cs) with
      | none => simp [Except.map]
      | some width => simp [Except.map, eq_comm]

theorem statesEntry_some_iff {text : List Char} {entry : Option (Option Float)} :
    StatesEntry (some text) entry ↔ ∃ gflops, entry = some gflops ∧ StatesThroughput text gflops := by
  constructor
  · rintro (⟨rfl, rfl⟩ | ⟨x, hx, rfl⟩)
    · exact ⟨none, rfl, rfl⟩
    · exact ⟨some x, rfl, throughput?_eq_some_iff.2 hx⟩
  · rintro ⟨gflops, rfl, h⟩
    cases gflops with
    | none => exact .inl ⟨h, rfl⟩
    | some x => exact .inr ⟨x, throughput?_eq_some_iff.1 h, rfl⟩

theorem Columns.readRecord_eq_ok_iff {columns : Columns} {label : Option Nat} {cells : List (List Char)}
    {row : Observation Float} : columns.readRecord label cells = .ok row ↔
      cells.getD columns.source [] ≠ [] ∧ ∃ nnz k,
        Number.count? nnzLimit (cells.getD columns.nnz []) = some nnz ∧
        readWidth label (columns.k.map fun i => cells.getD i []) = .ok k ∧
        readThroughputs (columns.throughput.map fun column => (column.1, cells.getD column.2 []))
          ⟨String.ofList (cells.getD columns.source []), nnz, k, ∅⟩ = .ok row := by
  by_cases hsource : cells.getD columns.source [] = []
  · refine iff_of_false ?_ fun h => h.1 hsource
    simp only [readRecord, hsource]
    rintro ⟨⟩
  · have hempty : (cells.getD columns.source []).isEmpty = false := List.isEmpty_eq_false_iff.2 hsource
    rw [and_iff_right hsource]
    cases hnnz : Number.count? nnzLimit (cells.getD columns.nnz []) with
    | none =>
      refine iff_of_false ?_ ?_
      · simp only [readRecord, readCount, hempty, hnnz]
        rintro ⟨⟩
      · rintro ⟨nnz, k, ⟨⟩, -⟩
    | some nnz =>
      have hcount : readCount nnzLimit "NNZ" (cells.getD columns.nnz []) = .ok nnz := by
        rw [readCount, hnnz]
      cases hk : readWidth label (columns.k.map fun i => cells.getD i []) with
      | error cause =>
        refine iff_of_false ?_ ?_
        · simp only [readRecord, hempty, hcount, hk]
          rintro ⟨⟩
        · rintro ⟨nnz, k, -, ⟨⟩, -⟩
      | ok k =>
        rw [readRecord_eq hsource hcount hk]
        constructor
        · exact fun h => ⟨nnz, k, rfl, rfl, h⟩
        · rintro ⟨nnz, k, ⟨⟩, ⟨⟩, h⟩
          exact h

namespace Locates

variable {header fields : List (List Char)} {columns : Columns} {row : Observation Float}

theorem mem_kernels (h : Locates header columns) {kernel : Kernel} :
    kernel ∈ columns.kernels ↔ ∃ i, (Heading.kernel kernel).column? header = some i := by
  rw [Columns.kernels, List.mem_map]
  constructor
  · rintro ⟨⟨named, i⟩, hcolumn, rfl⟩
    exact ⟨i, (h.throughput named i).1 hcolumn⟩
  · rintro ⟨i, hi⟩
    exact ⟨_, (h.throughput kernel i).2 hi, rfl⟩

theorem cell?_of_mem (h : Locates header columns) {kernel : Kernel} {i : Nat}
    (hcolumn : (kernel, i) ∈ columns.throughput) :
    (Heading.kernel kernel).cell? header fields = some ((fields.map Text.trim).getD i []) := by
  rw [Heading.cell?_eq, (h.throughput kernel i).1 hcolumn, Option.map_some]

theorem cell?_of_not_mem (h : Locates header columns) {kernel : Kernel} (hkernel : kernel ∉ columns.kernels) :
    (Heading.kernel kernel).cell? header fields = none := by
  rw [h.mem_kernels, not_exists] at hkernel
  rw [Heading.cell?_eq, Option.map_eq_none_iff, Option.eq_none_iff_forall_ne_some]
  exact hkernel

theorem filled_iff (h : Locates header columns) {start : Observation Float}
    (hempty : start.throughput = ∅) :
    Filled (columns.throughput.map fun column => (column.1, (fields.map Text.trim).getD column.2 []))
        start row ↔
      (row.source = start.source ∧ row.nnz = start.nnz ∧ row.k = start.k) ∧
        ∀ kernel, StatesEntry ((Heading.kernel kernel).cell? header fields)
          (row.throughput.get? kernel) := by
  constructor
  · intro hfilled
    refine ⟨⟨hfilled.source, hfilled.nnz, hfilled.k⟩, ?_⟩
    intro kernel
    by_cases hkernel : kernel ∈ columns.kernels
    · obtain ⟨⟨named, i⟩, hcolumn, rfl⟩ := List.mem_map.1 hkernel
      rw [h.cell?_of_mem hcolumn, statesEntry_some_iff]
      exact hfilled.stated _ (List.mem_map.2 ⟨_, hcolumn, rfl⟩)
    · have hother := hfilled.others kernel (by rwa [List.map_map])
      rw [h.cell?_of_not_mem hkernel, hother, hempty]
      exact KernelMap.get?_empty kernel
  · rintro ⟨⟨hsource, hnnz, hk⟩, hentries⟩
    refine ⟨hsource, hnnz, hk, ?_, ?_⟩
    · rw [List.forall_mem_map]
      intro column hcolumn
      have hentry := hentries column.1
      rwa [h.cell?_of_mem hcolumn, statesEntry_some_iff] at hentry
    · intro kernel hkernel
      rw [List.map_map] at hkernel
      have hentry := hentries kernel
      rw [h.cell?_of_not_mem hkernel] at hentry
      rw [hentry, hempty, KernelMap.get?_empty]

/-- **A record is read exactly if its fields describe a row**, and as that row. -/
theorem readRecord_eq_ok_iff (h : Locates header columns) (label : Option Nat) :
    columns.readRecord label (fields.map Text.trim) = .ok row ↔ Describes header fields label row := by
  have hsource := Heading.cell?_eq .source header fields
  have hnnz := Heading.cell?_eq .nnz header fields
  have hk := Heading.cell?_eq .k header fields
  rw [h.source, Option.map_some] at hsource
  rw [h.nnz, Option.map_some] at hnnz
  rw [h.k] at hk
  have hdistinct : ((columns.throughput.map fun column =>
      (column.1, (fields.map Text.trim).getD column.2 [])).map (·.1)).Nodup := by
    rw [List.map_map]
    exact h.distinct
  rw [Columns.readRecord_eq_ok_iff]
  constructor
  · rintro ⟨hne, nnz, k, hcount, hwidth, hread⟩
    obtain ⟨⟨hrowSource, hrowNnz, hrowK⟩, hentries⟩ :=
      (h.filled_iff rfl).1 (filled_of_readThroughputs hdistinct hread)
    refine ⟨⟨_, hsource, hne, hrowSource⟩, ⟨_, hnnz, ?_⟩, ?_, hentries⟩
    · rw [hrowNnz]
      exact Number.count?_eq_some_iff.1 hcount
    · rw [hrowK, hk]
      exact readWidth_eq_ok_iff.1 hwidth
  · rintro ⟨⟨text, htext, hne, hrowSource⟩, ⟨digits, hdigits, hcount⟩, hwidth, hentries⟩
    rw [hsource, Option.some.injEq] at htext
    rw [hnnz, Option.some.injEq] at hdigits
    subst htext
    subst hdigits
    rw [hk] at hwidth
    refine ⟨hne, row.nnz, row.k, Number.count?_eq_some_iff.2 hcount, readWidth_eq_ok_iff.2 hwidth, ?_⟩
    rw [readThroughputs_eq_ok_iff hdistinct]
    exact (h.filled_iff rfl).2 ⟨⟨hrowSource, rfl, rfl⟩, hentries⟩

theorem conforms (h : Locates header columns) {label : Option Nat}
    (hrow : Describes header fields label row) : row.Conforms columns.kernels := by
  intro kernel
  have hentry := hrow.throughput kernel
  by_cases hkernel : kernel ∈ columns.kernels
  · obtain ⟨⟨named, i⟩, hcolumn, rfl⟩ := List.mem_map.1 hkernel
    rw [h.cell?_of_mem hcolumn, statesEntry_some_iff] at hentry
    obtain ⟨gflops, hgflops, -⟩ := hentry
    rw [hgflops]
    exact iff_of_true rfl hkernel
  · rw [h.cell?_of_not_mem hkernel] at hentry
    have hnone : row.throughput.get? kernel = none := hentry
    rw [hnone]
    exact iff_of_false Bool.false_ne_true hkernel

end Locates

/-! ## Records -/

/-- The record is a text, and its fields describe a row. -/
def Says (header : List (List Char)) (label : Option Nat) (record : RawRecord)
    (row : Observation Float) : Prop :=
  ∃ fields, record.fields = fields.map encode ∧ Describes header fields label row

/-- The record describes some row. -/
def Readable (header : List (List Char)) (label : Option Nat) (record : RawRecord) : Prop :=
  ∃ row, Says header label record row

/-- **A record is accepted exactly if it says a row**, and as that row, whatever its number is. -/
theorem outcome_eq_accepted_iff {header : List (List Char)} {columns : Columns}
    (h : Locates header columns) {label : Option Nat} {record : RawRecord} {number : Nat}
    {row : Observation Float} :
    outcome columns label record number = .accepted row ↔ Says header label record row := by
  have hdecode : ∀ fields, record.fields = fields.map encode →
      (outcome columns label record number = .accepted row ↔ Describes header fields label row) := by
    intro fields hfields
    rw [← h.readRecord_eq_ok_iff, outcome, decode_encode hfields]
    dsimp only
    cases columns.readRecord label (fields.map Text.trim) with
    | error cause => exact iff_of_false (fun h => by cases h) fun h => by cases h
    | ok read => simp only [Outcome.accepted.injEq, Except.ok.injEq]
  constructor
  · intro haccepted
    cases hcells : record.decode number with
    | error cause =>
      rw [outcome, hcells] at haccepted
      cases haccepted
    | ok cells =>
      obtain ⟨fields, hfields, -⟩ := decode_eq_ok_iff.1 hcells
      exact ⟨fields, hfields, (hdecode fields hfields).1 haccepted⟩
  · rintro ⟨fields, hfields, hdescribes⟩
    exact (hdecode fields hfields).2 hdescribes

theorem readable_iff {header : List (List Char)} {label : Option Nat} {record : RawRecord} :
    Readable header label record ↔ ∃ columns ∈ (Columns.ofHeader (header.map Text.trim)).toOption,
      (outcome columns label record 0).row?.isSome = true := by
  have hrow : ∀ result : Outcome, result.row?.isSome = true ↔ ∃ row, result = .accepted row := by
    intro result
    cases result <;> simp [Outcome.row?]
  constructor
  · rintro ⟨row, fields, hfields, hrow'⟩
    obtain ⟨source, hsource, -⟩ := hrow'.source
    obtain ⟨nnz, hnnz, -⟩ := hrow'.nnz
    rw [Heading.cell?_eq] at hsource hnnz
    obtain ⟨i, hi, -⟩ := Option.map_eq_some_iff.1 hsource
    obtain ⟨j, hj, -⟩ := Option.map_eq_some_iff.1 hnnz
    obtain ⟨columns, hcolumns⟩ := exists_columns_iff.2 ⟨by rw [hi]; rfl, by rw [hj]; rfl⟩
    refine ⟨columns, by rw [hcolumns]; rfl, (hrow _).2 ⟨row, ?_⟩⟩
    exact (outcome_eq_accepted_iff (locates_of_ofHeader hcolumns)).2 ⟨fields, hfields, hrow'⟩
  · rintro ⟨columns, hmem, hsome⟩
    have hcolumns : Columns.ofHeader (header.map Text.trim) = .ok columns := by
      cases hok : Columns.ofHeader (header.map Text.trim) with
      | error e => rw [hok] at hmem; cases hmem
      | ok columns' => rw [hok] at hmem; cases hmem; rfl
    obtain ⟨row, haccepted⟩ := (hrow _).1 hsome
    exact ⟨row, (outcome_eq_accepted_iff (locates_of_ofHeader hcolumns)).1 haccepted⟩

instance (header : List (List Char)) (label : Option Nat) (record : RawRecord) :
    Decidable (Readable header label record) := decidable_of_iff _ readable_iff.symm

/-! ## Tables -/

/-- The log says of a record that it is dropped, by its number, and why. -/
def Drops (place : RawRecord × Nat) (event : LogEvent) : Prop :=
  let number := place.2
  ∃ cause : String, event.render = s!"DEBUG Dropping record {number}: " ++ cause

/-- An extraction, with its log, is what some records say under a header. -/
structure Reads (header : List (List Char)) (label : Option Nat) (records : List RawRecord)
    (events : List LogEvent) (e : Extraction) : Prop where
  total : e.accepted + e.malformed = records.length
  orphaned : e.orphaned = 0
  length : e.accepted = e.table.rows.length
  kernels : ∀ kernel, kernel ∈ e.table.kernels ↔
    ∃ name ∈ header, (Heading.kernel kernel).Spells (Text.trim name)
  rows : List.Forall₂ (Says header label) (records.filter fun record => Readable header label record)
    e.table.rows
  /-- after the remarks on the header, and the columns that it names, comes a line for every record that is
  dropped -/
  log : ∃ remarks columns drops, events = remarks ++ .resolvedColumns columns :: drops ∧
    (∀ event ∈ remarks, event.level = .warn) ∧ Locates header columns ∧
    List.Forall₂ Drops ((records.zipIdx 1).filter fun place => ¬ Readable header label place.1) drops

/-- Every record is either accepted or dropped. -/
theorem length_rows_add_countP (outcomes : List Outcome) :
    (outcomes.filterMap Outcome.row?).length + outcomes.countP (fun outcome => !outcome.isAccepted) =
      outcomes.length := by
  have hrow : ∀ outcome : Outcome, outcome.row?.isSome = outcome.isAccepted := by
    intro outcome
    cases outcome <;> rfl
  have hsplit := List.length_eq_countP_add_countP Outcome.isAccepted (l := outcomes)
  simp only [decide_not, Bool.decide_eq_true] at hsplit
  simp only [List.length_filterMap_eq_countP, hrow]
  exact hsplit.symm

theorem length_outcomes (columns : Columns) (label : Option Nat) (records : List RawRecord) :
    (outcomes columns label records).length = records.length := by
  rw [outcomes, List.length_map, List.length_zipIdx]

section

variable {header : List (List Char)} {columns : Columns} (h : Locates header columns)
  (label : Option Nat)

include h

theorem outcome_cases (record : RawRecord) (number : Nat) :
    (∃ row, Says header label record row ∧ outcome columns label record number = .accepted row) ∨
      ¬ Readable header label record ∧ (outcome columns label record number).row? = none ∧
        ∃ event, (outcome columns label record number).event? number = some event ∧
          Drops (record, number) event := by
  have hdropped : (∀ row, outcome columns label record number ≠ .accepted row) →
      ¬ Readable header label record := by
    rintro hne ⟨row, hrow⟩
    exact hne row ((outcome_eq_accepted_iff h).2 hrow)
  cases houtcome : outcome columns label record number with
  | accepted row => exact .inl ⟨row, (outcome_eq_accepted_iff h).1 houtcome, rfl⟩
  | malformed cause =>
    exact .inr ⟨hdropped (by simp [houtcome]), rfl, _, rfl, cause.message, rfl⟩
  | unreadable cause =>
    exact .inr ⟨hdropped (by simp [houtcome]), rfl, _, rfl, cause.message, rfl⟩

variable (records : List RawRecord)

theorem forall₂_says (start : Nat) :
    List.Forall₂ (Says header label) (records.filter fun record => Readable header label record)
      (((records.zipIdx start).map fun place => outcome columns label place.1 place.2).filterMap
        Outcome.row?) := by
  induction records generalizing start with
  | nil => exact .nil
  | cons record records ih =>
    rw [List.zipIdx_cons, List.map_cons]
    rcases outcome_cases h label record start with ⟨row, hsays, haccepted⟩ | ⟨hnot, hrow, -⟩
    · have hread : Readable header label record := ⟨row, hsays⟩
      rw [List.filter_cons_of_pos (by simpa using hread), haccepted]
      exact .cons hsays (ih _)
    · rw [List.filter_cons_of_neg (by simpa using hnot), List.filterMap_cons_none hrow]
      exact ih _

theorem forall₂_drops (start : Nat) :
    List.Forall₂ Drops ((records.zipIdx start).filter fun place => ¬ Readable header label place.1)
      ((((records.zipIdx start).map fun place => outcome columns label place.1 place.2).zipIdx
        start).filterMap fun place => place.1.event? place.2) := by
  induction records generalizing start with
  | nil => exact .nil
  | cons record records ih =>
    rw [List.zipIdx_cons, List.map_cons, List.zipIdx_cons]
    rcases outcome_cases h label record start with ⟨row, hsays, haccepted⟩ | ⟨hnot, -, event, hevent, hdrops⟩
    · have hread : Readable header label record := ⟨row, hsays⟩
      rw [List.filter_cons_of_neg (by simpa using hread), haccepted, List.filterMap_cons]
      exact ih _
    · rw [List.filter_cons_of_pos (by simpa using hnot), List.filterMap_cons, hevent]
      exact .cons hdrops (ih _)

/-- **The records below a header are read one by one.**  A row is under the kernels of the table as it was
read. -/
theorem reads_extractRecords : Reads header label records
    (headerEvents (header.map Text.trim) ++ .resolvedColumns columns ::
      ((outcomes columns label records).zipIdx 1).filterMap fun place => place.1.event? place.2)
    (extractRecords columns label records) := by
  have hrows : List.Forall₂ (Says header label)
      (records.filter fun record => Readable header label record)
      ((outcomes columns label records).filterMap Outcome.row?) := forall₂_says h label records 1
  have htable : (extractRecords columns label records).table =
      ⟨Kernel.catalogued columns.kernels, (outcomes columns label records).filterMap Outcome.row?⟩ := by
    refine Table.ofKernels_merge_ofRows (forall_right_of_forall₂ hrows ?_)
    rintro record row ⟨fields, -, hrow⟩
    exact h.conforms hrow
  constructor
  case total => exact (length_rows_add_countP _).trans (length_outcomes columns label records)
  case orphaned => rfl
  case length =>
    rw [htable]
    rfl
  case kernels =>
    intro kernel
    rw [htable, Kernel.mem_catalogued, h.mem_kernels, ← Option.isSome_iff_exists, isSome_column?_iff]
  case rows =>
    rw [htable]
    exact hrows
  case log =>
    refine ⟨_, columns, _, rfl, ?_, h, forall₂_drops h label records 1⟩
    intro event hevent
    rw [headerEvents, List.mem_append, List.mem_map] at hevent
    rcases hevent with ⟨kernel, -, rfl⟩ | hevent
    · rfl
    · split at hevent
      · rw [List.mem_singleton] at hevent
        rw [hevent]
        rfl
      · cases hevent

end

end KernelCharts.Delimited
