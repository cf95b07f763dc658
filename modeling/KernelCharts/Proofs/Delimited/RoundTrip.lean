import KernelCharts.Delimited.Extract
import KernelCharts.Proofs.Delimited.Fields
import KernelCharts.Proofs.Delimited.Header
import KernelCharts.Proofs.Delimited.Scanning
import KernelCharts.Proofs.Table.Merge

/-!
# Tables of records that are read back

A table of records is a header that names its columns, and records with one field for each of them.
Written with all fields in quotes, it is read back as it was, whatever the order of the columns, the
spelling of their names, the bytes inside the fields and the ends of the records are.

* `Sheet`, `Record`, `Sheet.text` — headers, records and their text;
* `Sheet.extraction`, `Sheet.remarks` — what is read, and what the log says about it;
* `Sheet.map_fields_text` — the text is taken apart as it was put together;
* `Sheet.outcomes_eq` — every record is accepted;
* `extract_sheet` — a table is read back as it was written.
-/

namespace KernelCharts.Delimited

/-! ## Headers and records -/

/-- the columns of a table, as the fields of its header name them: one for the matrix and one for the
number of nonzeros, at most one for the width, one for each of some kernels, and others -/
structure Sheet where
  headings : List Heading
  fields : List (List Char)
  names : List.Forall₂ Heading.Names headings fields
  source_once : headings.count .source = 1
  nnz_once : headings.count .nnz = 1
  k_atMostOnce : headings.count .k ≤ 1
  distinct : (headings.filterMap Heading.kernel?).Nodup

def Sheet.kernels (sheet : Sheet) : List Kernel := sheet.headings.filterMap Heading.kernel?

/-- a record with a field for each of the columns -/
structure Record (sheet : Sheet) where
  entry : Entry
  fields : List (List Char)
  holds : List.Forall₂ (Heading.Holds entry) sheet.headings fields
  source_ne : entry.source ≠ ""
  nnz_pos : 0 < entry.nnz
  nnz_lt : entry.nnz < nnzLimit
  k_bounds : ∀ k ∈ entry.k, 0 < k ∧ k < widthLimit

namespace Sheet

variable (sheet : Sheet)

/-- the fields of the header and of the records, line by line -/
def rows (records : List (Record sheet)) : List (List (List Char)) :=
  sheet.fields :: records.map (·.fields)

/-- the text of a table, where `ending` tells of every record how it ends, the header being number zero -/
def text (records : List (Record sheet)) (ending : Nat → RecordEnd) : String :=
  String.ofList ((sheet.rows records).zipIdx.flatMap fun row =>
    recordText row.1 ++ (ending row.2).text)

/-- what is read of some records: all of them, in order, under the kernels of the header in the order of
the catalogue -/
def extraction (records : List (Record sheet)) (label : Option Nat) : Extraction where
  table := {
    kernels := Kernel.all.filter (· ∈ sheet.kernels)
    rows := records.map fun record => record.entry.observation sheet.headings label }
  accepted := records.length
  malformed := 0
  orphaned := 0

/-- what the log remarks: only that a header names no kernel -/
def remarks : List LogEvent :=
  if sheet.kernels = [] then [.noKernelColumns (sheet.fields.map Text.trim)] else []

/-! ## Columns -/

theorem exists_columns :
    ∃ columns, Columns.ofHeader (sheet.fields.map Text.trim) = .ok columns ∧
      Resolves sheet.headings columns := by
  refine ofHeader_resolves sheet.names ?_ ?_ sheet.distinct
  · exact List.count_pos_iff.1 (sheet.source_once ▸ Nat.one_pos)
  · exact List.count_pos_iff.1 (sheet.nnz_once ▸ Nat.one_pos)

theorem headerEvents_eq : headerEvents (sheet.fields.map Text.trim) = sheet.remarks := by
  have hkernels := filterMap_ofName?_eq sheet.names
  have hdistinct := sheet.distinct
  rw [← hkernels] at hdistinct
  have hempty : (kernelColumns (sheet.fields.map Text.trim)).isEmpty = true ↔ sheet.kernels = [] := by
    rw [kernelColumns_eq_places hdistinct, List.isEmpty_iff, ← List.map_eq_nil_iff (f := (·.1)),
      map_fst_places, hkernels]
    rfl
  rw [headerEvents, repeatedKernels_eq_nil hdistinct, List.map_nil, List.nil_append, remarks]
  exact if_congr hempty rfl rfl

/-! ## Texts -/

theorem rows_ne_nil (records : List (Record sheet)) : ∀ row ∈ sheet.rows records, row ≠ [] := by
  have hheadings : sheet.headings ≠ [] := by
    intro hnil
    have honce := sheet.source_once
    rw [hnil] at honce
    cases honce
  have hne : ∀ {R : Heading → List Char → Prop} {fields : List (List Char)},
      List.Forall₂ R sheet.headings fields → fields ≠ [] := by
    rintro R fields hfields rfl
    exact hheadings (List.forall₂_nil_right_iff.1 hfields)
  intro row hrow
  rw [rows, List.mem_cons, List.mem_map] at hrow
  rcases hrow with rfl | ⟨record, -, rfl⟩
  · exact hne sheet.names
  · exact hne record.holds

/-- **The fields of a text are those that were written.** -/
theorem map_fields_text (records : List (Record sheet)) (ending : Nat → RecordEnd) :
    (Delimited.records (Feed.ofBytes (sheet.text records ending).toUTF8.data.toList)).map (·.fields) =
      (sheet.rows records).map (·.map Utf8.encode) := by
  have hbytes : (sheet.text records ending).toUTF8.data.toList =
      ((sheet.rows records).zipIdx.map fun row =>
        (row.1.map Utf8.encode, ending row.2)).flatMap fun row => quotedRecord row.1 ++ row.2.bytes := by
    rw [Utf8.toList_toUTF8, text, String.toList_ofList, Utf8.encode, List.flatMap_assoc,
      List.flatMap_map]
    refine List.flatMap_congr fun row _ => ?_
    have hrow := Utf8.encode_append (recordText row.1) (ending row.2).text
    rwa [encode_recordText, encode_recordEnd] at hrow
  rw [hbytes, map_fields_records, List.map_map]
  · calc (sheet.rows records).zipIdx.map (fun row => row.1.map Utf8.encode)
        = ((sheet.rows records).zipIdx.map (·.1)).map (·.map Utf8.encode) := List.map_map.symm
      _ = (sheet.rows records).map (·.map Utf8.encode) := by rw [List.zipIdx_map_fst]
  · rw [List.forall_mem_map]
    intro row hrow hnil
    exact sheet.rows_ne_nil records row.1 (List.fst_mem_of_mem_zipIdx hrow) (List.map_eq_nil_iff.1 hnil)

/-- The header of a text is that of the table, and the records after it have what was written. -/
theorem headerAndRecords_text (records : List (Record sheet)) (ending : Nat → RecordEnd) :
    ∃ rest, headerAndRecords (Feed.ofBytes (sheet.text records ending).toUTF8.data.toList) =
        .ok (sheet.fields.map Text.trim, rest) ∧
      rest.map (·.fields) = records.map fun record => record.fields.map Utf8.encode := by
  have hfields := sheet.map_fields_text records ending
  rw [rows, List.map_cons, List.map_map, List.map_eq_cons_iff] at hfields
  obtain ⟨header, rest, hrecords, hheader, hrest⟩ := hfields
  refine ⟨rest, ?_, hrest⟩
  rw [headerAndRecords, hrecords]
  dsimp only
  rw [decode_encode hheader]

/-! ## Outcomes -/

variable {sheet} {columns : Columns}

theorem outcome_eq (hcolumns : Resolves sheet.headings columns) (record : Record sheet)
    (label : Option Nat) {raw : RawRecord} (hraw : raw.fields = record.fields.map Utf8.encode)
    (number : Nat) : outcome columns label raw number =
      .accepted (record.entry.observation sheet.headings label) := by
  have hread := hcolumns.readRecord_eq record.holds record.source_ne
    ⟨record.nnz_pos, record.nnz_lt⟩ record.k_bounds label
  rw [outcome, decode_encode hraw]
  dsimp only
  rw [hread]

/-- **Every record is accepted.** -/
theorem outcomes_eq (hcolumns : Resolves sheet.headings columns) (label : Option Nat)
    {records : List (Record sheet)} {rest : List RawRecord}
    (hrest : rest.map (·.fields) = records.map fun record => record.fields.map Utf8.encode) :
    outcomes columns label rest = records.map fun record =>
      .accepted (record.entry.observation sheet.headings label) := by
  have hzip : ∀ start, (rest.zipIdx start).map (fun place => outcome columns label place.1 place.2) =
      records.map fun record => .accepted (record.entry.observation sheet.headings label) := by
    induction rest generalizing records with
    | nil =>
      intro start
      rw [List.map_eq_nil_iff.1 hrest.symm]
      rfl
    | cons raw rest ih =>
      intro start
      obtain ⟨record, records', rfl, hraw, hrest'⟩ := List.map_eq_cons_iff.1 hrest.symm
      rw [List.zipIdx_cons, List.map_cons, List.map_cons, outcome_eq hcolumns record label hraw.symm,
        ih hrest'.symm]
  exact hzip 1

theorem conforms_observation (entry : Entry) (headings : List Heading) (label : Option Nat) :
    (entry.observation headings label).Conforms (headings.filterMap Heading.kernel?) := by
  intro kernel
  rw [Entry.observation, KernelMap.get?_restrict]
  split
  · next hnamed => exact iff_of_true rfl hnamed
  · next hnamed => exact iff_of_false Bool.false_ne_true hnamed

theorem extractRecords_eq (hcolumns : Resolves sheet.headings columns) (label : Option Nat)
    {records : List (Record sheet)} {rest : List RawRecord}
    (hrest : rest.map (·.fields) = records.map fun record => record.fields.map Utf8.encode) :
    extractRecords columns label rest = sheet.extraction records label := by
  have hrows : (outcomes columns label rest).filterMap Outcome.row? =
      records.map fun record => record.entry.observation sheet.headings label := by
    rw [outcomes_eq hcolumns label hrest, List.filterMap_map]
    exact congrFun List.filterMap_eq_map records
  have hmalformed : (outcomes columns label rest).countP (fun outcome => !outcome.isAccepted) = 0 := by
    rw [outcomes_eq hcolumns label hrest, List.countP_map]
    exact List.countP_eq_zero.2 fun record _ => Bool.false_ne_true
  have hkernels : columns.kernels = sheet.kernels := by
    rw [Columns.kernels, hcolumns.throughput, map_fst_places]
    rfl
  have hcatalogue : Kernel.catalogued sheet.kernels = Kernel.all.filter (· ∈ sheet.kernels) := by
    refine List.filter_congr fun kernel _ => ?_
    rw [List.contains_eq_mem]
  rw [extractRecords, hrows, hkernels, hmalformed, Table.ofKernels_merge_ofRows, hcatalogue, List.length_map]
  · rfl
  · rw [List.forall_mem_map]
    exact fun record _ => conforms_observation record.entry sheet.headings label

theorem recordEvents_eq_nil (hcolumns : Resolves sheet.headings columns) (label : Option Nat)
    {records : List (Record sheet)} {rest : List RawRecord}
    (hrest : rest.map (·.fields) = records.map fun record => record.fields.map Utf8.encode) :
    ((outcomes columns label rest).zipIdx 1).filterMap (fun place => place.1.event? place.2) = [] := by
  rw [List.filterMap_eq_nil_iff, outcomes_eq hcolumns label hrest]
  intro place hplace
  obtain ⟨record, -, houtcome⟩ := List.mem_map.1 (List.fst_mem_of_mem_zipIdx hplace)
  rw [← houtcome]
  rfl

end Sheet

/-- **A table of records is read back as it was written**, whatever stands in its fields: every record is
accepted, with the width of the label if there is one, and nothing is remarked but that a header names no
kernel, before the columns that it does name. -/
theorem extract_sheet (sheet : Sheet) (records : List (Record sheet)) (ending : Nat → RecordEnd)
    (label : Option Nat) : ∃ columns, Resolves sheet.headings columns ∧
    extract label (Feed.ofBytes (sheet.text records ending).toUTF8.data.toList) =
      (sheet.remarks ++ [.resolvedColumns columns], .ok (sheet.extraction records label)) := by
  obtain ⟨rest, hparts, hrest⟩ := sheet.headerAndRecords_text records ending
  obtain ⟨columns, hheader, hcolumns⟩ := sheet.exists_columns
  refine ⟨columns, hcolumns, ?_⟩
  rw [extract, hparts]
  dsimp only
  rw [hheader]
  dsimp only
  rw [sheet.headerEvents_eq, Sheet.recordEvents_eq_nil hcolumns label hrest,
    Sheet.extractRecords_eq hcolumns label hrest]
  rfl

/-! ## A table -/

def sampleSheet : Sheet where
  headings := [.kernel .roDe, .other, .nnz, .source, .k]
  fields := ["RODE_gflops".toList, "M".toList, " nnz".toList, "Matrix".toList, "K".toList]
  names := by decide +kernel
  source_once := by decide
  nnz_once := by decide
  k_atMostOnce := by decide
  distinct := by decide

/-- a record with a comma, quotes and the end of a line in its name, and with no width -/
def sampleRecord : Record sampleSheet where
  entry := ⟨"a,\"b\"\r\nc.mtx", 250, none, fun _ => throughput? "7.25".toList⟩
  fields := ["7.25".toList, "\n".toList, " 0250 ".toList, "a,\"b\"\r\nc.mtx".toList, "".toList]
  holds := by
    have hthroughput : StatesThroughput "7.25".toList (throughput? "7.25".toList) := by
      obtain ⟨x, hx⟩ : ∃ x, throughput? "7.25".toList = some x :=
        Option.isSome_iff_exists.1 (by decide +kernel)
      rw [hx]
      exact hx
    have hnnz : Number.IsDecimal "0250".toList 250 :=
      ⟨by decide, List.all_eq_true.1 (by decide), by decide⟩
    refine .cons ⟨_, shows_iff.2 (by decide), hthroughput⟩ (.cons trivial (.cons ?_ (.cons ?_ ?_)))
    · exact ⟨_, shows_iff.2 (by decide), hnnz⟩
    · exact shows_iff.2 (by decide)
    · exact .cons ⟨_, shows_iff.2 rfl, rfl⟩ .nil
  source_ne := by decide
  nnz_pos := by decide
  nnz_lt := by decide
  k_bounds := by simp

/-- the header ends in a carriage return, and the records end in that and a line feed -/
def sampleEnding (number : Nat) : RecordEnd := if number = 0 then .carriageReturn else .both

theorem extract_sheet_sampleRecord :
    (sampleSheet.text [sampleRecord] sampleEnding).toList =
      ("\"RODE_gflops\",\"M\",\" nnz\",\"Matrix\",\"K\"\r" ++
        "\"7.25\",\"\n\",\" 0250 \",\"a,\"\"b\"\"\r\nc.mtx\",\"\"\r\n").toList ∧
    ∃ columns, Resolves sampleSheet.headings columns ∧ extract (some 64)
        (Feed.ofBytes (sampleSheet.text [sampleRecord] sampleEnding).toUTF8.data.toList) =
      ([.resolvedColumns columns], .ok ⟨⟨[.roDe], [⟨"a,\"b\"\r\nc.mtx", 250, some 64,
        .insert ∅ .roDe (throughput? "7.25".toList)⟩]⟩, 1, 0, 0⟩) := by
  refine ⟨?_, ?_⟩
  · rw [Sheet.text, String.toList_ofList]
    decide +kernel
  · obtain ⟨columns, hcolumns, hextract⟩ := extract_sheet sampleSheet [sampleRecord] sampleEnding (some 64)
    exact ⟨columns, hcolumns, hextract⟩

end KernelCharts.Delimited
