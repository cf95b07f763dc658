import KernelCharts.Proofs.Table.Measurements
import KernelCharts.Proofs.Text.Lines
import KernelCharts.Report.Extract
import Mathlib.Data.List.Induction

/-!
# What a report says

Extraction carries the last file and the last header along.  Here the meaning of a report is said of
its lines alone: a row of values at a place belongs to the last line before it that names a file, and
has its cells under the last header before it.

* `isHeaderRow`, `isDataRow` — the rows of a report;
* `fileBefore`, `columnsBefore`, `reading` — what the lines before a row make of it;
* `Reads` — an extraction is what the lines say;
* `foldl_next` — the context carried along is what the lines so far say;
* `extract_reads` — extraction reads every text as it says.
-/

namespace KernelCharts.Report

/-! ## Rows -/

/-- the line names no file and starts with a bar -/
def isPipeRow (line : List Char) : Bool :=
  (contextFile? line).isNone && (Text.trimStart line).head? == some '|'

/-- a row with the first cell `M` -/
def isHeaderRow (line : List Char) : Bool :=
  isPipeRow line && (splitRow line).head? == some ['M']

def isDataRow (line : List Char) : Bool :=
  isPipeRow line && !((splitRow line).head? == some ['M'])

/-- the rows of values of some lines, with their places -/
def dataRows (lines : List (List Char)) : List (List Char × Nat) :=
  lines.zipIdx.filter fun row => isDataRow row.1

/-! ## The meaning of a row -/

def lastFile (lines : List (List Char)) : Option (List Char) := (lines.filterMap contextFile?).getLast?

/-- the columns of the last header; without one, or when it names too few, those by position -/
def lastColumns (lines : List (List Char)) : Columns :=
  match (lines.filter isHeaderRow).getLast? with
  | none => .positional
  | some header => (Columns.ofHeader? (splitRow header)).getD .positional

/-- the file that a row at a place belongs to -/
def fileBefore (lines : List (List Char)) (i : Nat) : Option (List Char) := lastFile (lines.take i)

/-- the columns that a row at a place has -/
def columnsBefore (lines : List (List Char)) (i : Nat) : Columns := lastColumns (lines.take i)

/-- what a row says: nothing without a file -/
def reading (lines : List (List Char)) (row : List Char × Nat) :
    Option (Except RowError (Observation Float)) :=
  (fileBefore lines row.2).map fun file =>
    (columnsBefore lines row.2).readRow (String.ofList file) (splitRow row.1)

def observation? (lines : List (List Char)) (row : List Char × Nat) : Option (Observation Float) :=
  match reading lines row with
  | some (.ok observation) => some observation
  | _ => none

/-- the line of the log about a line of a report: one for each row that is dropped, with the reason,
and one for each header that names too few columns -/
def logLine? (lines : List (List Char)) (row : List Char × Nat) : Option String :=
  let number := row.2 + 1
  if isDataRow row.1 then
    match reading lines row with
    | none => some s!"DEBUG Dropping line {number}: no file context yet"
    | some (.error cause) => some (s!"DEBUG Dropping line {number}: " ++ cause.message)
    | some (.ok _) => none
  else if isHeaderRow row.1 && (Columns.ofHeader? (splitRow row.1)).isNone then
    some s!"DEBUG Header on line {number} not recognised, using legacy columns"
  else none

/-- An extraction, with its log, is what some lines say. -/
structure Reads (lines : List (List Char)) (events : List LogEvent) (e : Extraction) : Prop where
  rows : List.Forall₂ Observation.SameMeasurements ((dataRows lines).filterMap (observation? lines))
    e.table.rows
  accepted : e.accepted = (dataRows lines).countP fun row => reading lines row matches some (.ok _)
  malformed : e.malformed =
    (dataRows lines).countP fun row => reading lines row matches some (.error _)
  orphaned : e.orphaned = (dataRows lines).countP fun row => reading lines row matches none
  total : e.accepted + e.malformed + e.orphaned = (dataRows lines).length
  length : e.accepted = e.table.rows.length
  log : events.map LogEvent.render = lines.zipIdx.filterMap (logLine? lines)

/-! ## Lines -/

/-- lines with the bytes of texts are decoded to the texts -/
theorem decodeLines_of_map {pieces : List (List UInt8)} {texts : List (List Char)}
    (h : pieces.map Lines.content = texts.map Utf8.encode) :
    decodeLines none pieces = (texts, none) := by
  induction pieces generalizing texts with
  | nil =>
    cases texts with
    | nil => rfl
    | cons text texts => simp at h
  | cons piece pieces ih =>
    cases texts with
    | nil => simp at h
    | cons text texts =>
      simp only [List.map_cons, List.cons.injEq] at h
      simp only [decodeLines, h.1, Utf8.decode?_encode, ih h.2]

/-- **A text is read as its lines.** -/
theorem readLines_encode (text : List Char) :
    readLines (Feed.ofBytes (Utf8.encode text)) = (Text.lines text, none) :=
  decodeLines_of_map (Lines.map_content_split text)

/-- what a line is, and what it is not -/
theorem classify_cases (line : List Char) :
    (∃ file, contextFile? line = some file ∧ classify line = .context file ∧
      isHeaderRow line = false ∧ isDataRow line = false) ∨
    contextFile? line = none ∧
      (classify line = .header (splitRow line) ∧ isHeaderRow line = true ∧ isDataRow line = false ∨
        classify line = .data (splitRow line) ∧ isHeaderRow line = false ∧ isDataRow line = true ∨
        classify line = .prose ∧ isHeaderRow line = false ∧ isDataRow line = false) := by
  cases hfile : contextFile? line with
  | some file => exact .inl ⟨file, rfl, by simp [classify, hfile, isHeaderRow, isDataRow, isPipeRow]⟩
  | none =>
    refine .inr ⟨rfl, ?_⟩
    by_cases hbar : (Text.trimStart line).head? = some '|'
    · by_cases hcell : (splitRow line).head? = some ['M']
      · exact .inl (by simp [classify, hfile, isHeaderRow, isDataRow, isPipeRow, hbar, hcell])
      · exact .inr (.inl (by simp [classify, hfile, isHeaderRow, isDataRow, isPipeRow, hbar, hcell]))
    · exact .inr (.inr (by simp [classify, hfile, isHeaderRow, isDataRow, isPipeRow, hbar]))

/-! ## The context -/

/-- **The context carried along is what the lines so far say**: the last file and the columns of the
last header. -/
theorem foldl_next (lines : List (List Char)) :
    (lines.map classify).foldl Context.next .start = ⟨lastColumns lines, lastFile lines⟩ := by
  induction lines using List.reverseRecOn with
  | nil => rfl
  | append_singleton lines line ih =>
    rw [List.map_append, List.foldl_append, ih, List.map_singleton, List.foldl_cons, List.foldl_nil]
    unfold lastColumns lastFile
    rw [List.filterMap_append, List.filter_append]
    rcases classify_cases line with ⟨file, hfile, hkind, hheader, -⟩ | ⟨hfile, hrow⟩
    · -- a line that names a file takes the place of the last one
      simp [hkind, Context.next, hfile, hheader]
    · rcases hrow with ⟨hkind, hheader, -⟩ | ⟨hkind, hheader, -⟩ | ⟨hkind, hheader, -⟩
      · -- a header takes the place of the last one, whether it is recognised or not
        simp [hkind, Context.next, hfile, hheader]
      · simp [hkind, Context.next, hfile, hheader]
      · simp [hkind, Context.next, hfile, hheader]

theorem getElem?_outcomes (c : Context) (kinds : List LineKind) (i : Nat) :
    (outcomes c kinds)[i]? =
      kinds[i]?.map fun kind => ((kinds.take i).foldl Context.next c).outcome kind := by
  induction kinds generalizing c i with
  | nil => rfl
  | cons kind kinds ih =>
    cases i with
    | zero => rfl
    | succ i =>
      simp only [outcomes, List.getElem?_cons_succ, ih, List.take_succ_cons, List.foldl_cons]

/-- what becomes of a line at a place -/
def lineOutcome (lines : List (List Char)) (row : List Char × Nat) : Outcome :=
  Context.outcome ⟨columnsBefore lines row.2, fileBefore lines row.2⟩ (classify row.1)

theorem outcomes_eq_map (lines : List (List Char)) :
    outcomes .start (lines.map classify) = lines.zipIdx.map (lineOutcome lines) := by
  refine List.ext_getElem? fun i => ?_
  rw [getElem?_outcomes, ← List.map_take, foldl_next]
  simp only [List.getElem?_map, List.getElem?_zipIdx, Option.map_map, Nat.zero_add]
  rfl

/-- what becomes of a row of values is what it says -/
theorem lineOutcome_dataRow {lines : List (List Char)} {row : List Char × Nat}
    (h : isDataRow row.1 = true) : lineOutcome lines row =
      match reading lines row with
      | none => .orphaned
      | some (.ok observation) => .accepted observation
      | some (.error cause) => .malformed cause := by
  have hkind : classify row.1 = .data (splitRow row.1) := by
    rcases classify_cases row.1 with ⟨_, _, _, _, hd⟩ | ⟨_, ⟨_, _, hd⟩ | ⟨hk, _, _⟩ | ⟨_, _, hd⟩⟩
    · simp [h] at hd
    · simp [h] at hd
    · exact hk
    · simp [h] at hd
  unfold lineOutcome reading
  rw [hkind]
  cases hfile : fileBefore lines row.2 with
  | none => simp only [Context.outcome, Option.map_none]
  | some file =>
    simp only [Context.outcome, Option.map_some]
    cases (columnsBefore lines row.2).readRow (String.ofList file) (splitRow row.1) with
    | ok observation => rfl
    | error cause => rfl

/-- nothing becomes of the other lines, but for a remark on a header that names too few columns -/
theorem lineOutcome_other {lines : List (List Char)} {row : List Char × Nat}
    (h : isDataRow row.1 = false) : lineOutcome lines row =
      if isHeaderRow row.1 && (Columns.ofHeader? (splitRow row.1)).isNone then .unrecognised
      else .passed := by
  unfold lineOutcome
  rcases classify_cases row.1 with
    ⟨_, _, hk, hh, _⟩ | ⟨_, ⟨hk, hh, _⟩ | ⟨_, _, hd⟩ | ⟨hk, hh, _⟩⟩
  · simp [hk, hh, Context.outcome]
  · simp only [hk, hh, Context.outcome, Bool.true_and]
    cases Columns.ofHeader? (splitRow row.1) with
    | none => rfl
    | some columns => rfl
  · simp [h] at hd
  · simp [hk, hh, Context.outcome]

/-! ## Rows, counts and the log -/

/-- A row that says something belongs to a file, and is read under its columns. -/
theorem exists_readRow_of_observation? {lines : List (List Char)} {row : List Char × Nat}
    {said : Observation Float} (h : observation? lines row = some said) :
    ∃ file, fileBefore lines row.2 = some file ∧
      (columnsBefore lines row.2).readRow (String.ofList file) (splitRow row.1) = .ok said := by
  have hreading : reading lines row = some (.ok said) := by
    unfold observation? at h
    split at h
    · next heq => cases h; exact heq
    · cases h
  exact Option.map_eq_some_iff.1 hreading

theorem filterMap_outcomes (lines : List (List Char)) :
    (outcomes .start (lines.map classify)).filterMap Outcome.row? =
      (dataRows lines).filterMap (observation? lines) := by
  rw [outcomes_eq_map, List.filterMap_map, dataRows, List.filterMap_filter]
  refine List.filterMap_congr fun row _ => ?_
  rw [Function.comp_apply]
  cases hrow : isDataRow row.1 with
  | true =>
    rw [lineOutcome_dataRow hrow, observation?, if_pos rfl]
    rcases reading lines row with _ | _ | _ <;> rfl
  | false =>
    rw [lineOutcome_other hrow]
    split <;> rfl

/-- The rows that meet a certain fate are rows of values. -/
theorem countP_outcomes (lines : List (List Char)) {fate : Outcome → Bool}
    (hpassed : fate .passed = false) (hunrecognised : fate .unrecognised = false) :
    (outcomes .start (lines.map classify)).countP fate =
      (dataRows lines).countP fun row => fate (lineOutcome lines row) := by
  rw [outcomes_eq_map, List.countP_map, dataRows, List.countP_filter]
  refine List.countP_congr fun row _ => ?_
  rw [Function.comp_apply]
  cases hrow : isDataRow row.1 with
  | true => rw [Bool.and_true]
  | false =>
    rw [lineOutcome_other hrow]
    split <;> simp [hpassed, hunrecognised]

theorem mem_dataRows {lines : List (List Char)} {row : List Char × Nat} (h : row ∈ dataRows lines) :
    isDataRow row.1 = true :=
  (List.mem_filter.1 h).2

theorem countP_malformed (lines : List (List Char)) :
    (outcomes .start (lines.map classify)).countP Outcome.isMalformed =
      (dataRows lines).countP fun row => reading lines row matches some (.error _) := by
  rw [countP_outcomes lines rfl rfl]
  refine List.countP_congr fun row hrow => ?_
  rw [lineOutcome_dataRow (mem_dataRows hrow)]
  rcases reading lines row with _ | _ | _ <;> rfl

theorem countP_orphaned (lines : List (List Char)) :
    (outcomes .start (lines.map classify)).countP Outcome.isOrphaned =
      (dataRows lines).countP fun row => reading lines row matches none := by
  rw [countP_outcomes lines rfl rfl]
  refine List.countP_congr fun row hrow => ?_
  rw [lineOutcome_dataRow (mem_dataRows hrow)]
  rcases reading lines row with _ | _ | _ <;> rfl

theorem length_filterMap_observation? (lines : List (List Char)) (rows : List (List Char × Nat)) :
    (rows.filterMap (observation? lines)).length =
      rows.countP fun row => reading lines row matches some (.ok _) := by
  rw [List.length_filterMap_eq_countP]
  refine List.countP_congr fun row _ => ?_
  unfold observation?
  rcases reading lines row with _ | _ | _ <;> simp

/-- A row is accepted, malformed or orphaned. -/
theorem countP_reading (lines : List (List Char)) (rows : List (List Char × Nat)) :
    (rows.countP fun row => reading lines row matches some (.ok _)) +
      (rows.countP fun row => reading lines row matches some (.error _)) +
      (rows.countP fun row => reading lines row matches none) = rows.length := by
  induction rows with
  | nil => rfl
  | cons row rows ih =>
    simp only [List.countP_cons, List.length_cons]
    rcases reading lines row with _ | _ | _ <;> simp <;> omega

theorem render_lineEvents (lines : List (List Char)) :
    (lineEvents (lines.map classify)).map LogEvent.render = lines.zipIdx.filterMap (logLine? lines) := by
  have hnumbers : (lines.zipIdx.map (lineOutcome lines)).zipIdx 1 =
      lines.zipIdx.map fun row => (lineOutcome lines row, row.2 + 1) := by
    refine List.ext_getElem? fun i => ?_
    simp only [List.getElem?_zipIdx, List.getElem?_map, Option.map_map]
    congr 1
    funext line
    simp [Nat.add_comm]
  rw [lineEvents, outcomes_eq_map, hnumbers, List.filterMap_map, List.map_filterMap]
  refine List.filterMap_congr fun row _ => ?_
  simp only [Function.comp_apply, logLine?]
  cases hrow : isDataRow row.1 with
  | true =>
    rw [lineOutcome_dataRow hrow, if_pos rfl]
    rcases reading lines row with _ | _ | _ <;> rfl
  | false =>
    rw [lineOutcome_other hrow, if_neg Bool.false_ne_true]
    split <;> rfl

/-! ## Reports -/

theorem extract_text (report : String) : extract (Feed.ofBytes report.toUTF8.data.toList) =
    (lineEvents ((Text.lines report.toList).map classify),
      .ok (extractLines ((Text.lines report.toList).map classify))) := by
  rw [Utf8.toList_toUTF8]
  simp only [extract, readLines_encode]

/-- The table has the accepted rows, in order, and what they measured. -/
theorem forall₂_extractLines (kinds : List LineKind) : List.Forall₂ Observation.SameMeasurements
    ((outcomes .start kinds).filterMap Outcome.row?) (extractLines kinds).table.rows := by
  have hmerge := Table.forall₂_merge
    (Table.wellFormed_ofKernels (kinds.foldl Context.next .start).columns.kernels)
    (Table.Built.ofRows ((outcomes .start kinds).filterMap Outcome.row?)).wellFormed
  exact forall₂_sameMeasurements_trans (Table.forall₂_ofRows _) hmerge

/-- What is extracted from some lines is what they say. -/
theorem reads_extractLines (lines : List (List Char)) :
    Reads lines (lineEvents (lines.map classify)) (extractLines (lines.map classify)) := by
  have htable := forall₂_extractLines (lines.map classify)
  rw [filterMap_outcomes] at htable
  have hrows : (extractLines (lines.map classify)).accepted =
      ((dataRows lines).filterMap (observation? lines)).length := by
    rw [← filterMap_outcomes]
    rfl
  have hmalformed := countP_malformed lines
  have horphaned := countP_orphaned lines
  have haccepted := length_filterMap_observation? lines (dataRows lines)
  constructor
  case rows => exact htable
  case accepted => exact hrows.trans haccepted
  case malformed => exact hmalformed
  case orphaned => exact horphaned
  case total =>
    have htotal := countP_reading lines (dataRows lines)
    rw [← haccepted, ← hmalformed, ← horphaned, ← hrows] at htotal
    exact htotal
  case length => rw [hrows, htable.length_eq]
  case log => exact render_lineEvents lines

/-- **A report is read as its lines say.**  No text fails. -/
theorem extract_reads (report : String) : ∃ events e,
    extract (Feed.ofBytes report.toUTF8.data.toList) = (events, .ok e) ∧
      Reads (Text.lines report.toList) events e :=
  ⟨_, _, extract_text report, reads_extractLines (Text.lines report.toList)⟩

end KernelCharts.Report
