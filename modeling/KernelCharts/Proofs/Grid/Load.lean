import KernelCharts.Grid.Plot
import KernelCharts.Proofs.Delimited.Feed
import KernelCharts.Proofs.Session.Steps
import Mathlib.Algebra.GroupWithZero.Nat

/-!
# Loading the inputs of a grid

The inputs are read one by one.  One that cannot be read ends the loading; one with a bad header is left
out, and nothing else comes of it.

* `GridInput.extract` — what is extracted from the file of an input;
* `GridInput.Unreadable`, `GridInput.BadHeader` — the inputs that end the loading, and those that are left
  out, by what their files deliver;
* `GridInput.Delivers` — the rows that the records of a file say;
* `GridPlot.runOn_load` — loading ends at the first input that cannot be read, and merges the tables of
  the others from left to right;
* `GridPlot.load_contained` — what happens to one input does not touch what the others deliver.
-/

namespace KernelCharts

open Delimited (header? IsHeader Says Readable)

/-! ## One input -/

namespace GridInput

variable {files : FileSystem} {input : GridInput}

def extract (input : GridInput) (files : FileSystem) : Except ExtractError Extraction :=
  Session.extractionOf (Delimited.extract (some input.k)) input.path files

/-- The file of the input cannot be opened, or it breaks off while it is read.  A file with a bad header is
not read any further. -/
def Unreadable (input : GridInput) (files : FileSystem) : Prop :=
  match files.openFile input.path with
  | .error _ => True
  | .ok feed => feed.fault ≠ none ∧ ∀ fields ∈ header? feed, IsHeader fields

/-- The file of the input has a header that is no text, or lacks the column of the matrix or of the number
of nonzeros. -/
def BadHeader (input : GridInput) (files : FileSystem) : Prop :=
  ∃ feed fields, files.openFile input.path = .ok feed ∧ header? feed = some fields ∧ ¬ IsHeader fields

/-- The file of the input is a table with a header, and its records, as far as they say rows, say these.
They are labelled with the width of the input. -/
structure Delivers (input : GridInput) (files : FileSystem) (rows : List (Observation Float)) : Prop where
  records : ∃ feed first rest header, files.openFile input.path = .ok feed ∧ feed.fault = none ∧
    Delimited.records feed = first :: rest ∧ first.fields = header.map Utf8.encode ∧
    List.Forall₂ (Says header (some input.k))
      (rest.filter fun record => Readable header (some input.k) record) rows
  labelled : ∀ row ∈ rows, row.k = some input.k

/-- **What can become of an input.** -/
theorem extract_cases (input : GridInput) (files : FileSystem) :
    (∃ e, input.extract files = .ok e ∧ ¬ input.Unreadable files ∧ ¬ input.BadHeader files) ∨
    (∃ error, input.extract files = .error error ∧ error.isFatal = true ∧
      input.Unreadable files ∧ ¬ input.BadHeader files) ∨
    ∃ error, input.extract files = .error error ∧ error.isFatal = false ∧
      ¬ input.Unreadable files ∧ input.BadHeader files := by
  unfold extract Session.extractionOf Unreadable BadHeader
  cases files.openFile input.path with
  | error fault => exact .inr (.inl ⟨_, rfl, rfl, trivial, by simp⟩)
  | ok feed =>
    simp only [Except.ok.injEq, exists_and_left, exists_eq_left']
    rw [← @Delimited.exists_fatal_iff (some input.k) feed, ← @Delimited.exists_nonfatal_iff (some input.k) feed]
    cases hresult : (Delimited.extract (some input.k) feed).2 with
    | ok e => exact .inl ⟨e, by simp⟩
    | error error =>
      cases hkind : error.isFatal with
      | true => exact .inr (.inl ⟨error, by simp [hkind]⟩)
      | false => exact .inr (.inr ⟨error, by simp [hkind]⟩)

/-- the input cannot be extracted, but the loading goes on -/
def isLeftOut (input : GridInput) (files : FileSystem) : Bool :=
  match input.extract files with
  | .ok _ => false
  | .error error => !error.isFatal

theorem isLeftOut_iff : input.isLeftOut files = true ↔ input.BadHeader files := by
  unfold isLeftOut
  rcases extract_cases input files with ⟨e, hextract, -, hheader⟩ | ⟨error, hextract, hfatal, -, hheader⟩ |
    ⟨error, hextract, hfatal, -, hheader⟩
  · simp [hextract, hheader]
  · simp [hextract, hfatal, hheader]
  · simp [hextract, hfatal, hheader]

instance (input : GridInput) (files : FileSystem) : Decidable (input.BadHeader files) :=
  decidable_of_iff _ isLeftOut_iff

theorem labelled_of_says {header : List (List Char)} {k : Nat} {record : Delimited.RawRecord}
    {row : Observation Float} (h : Says header (some k) record row) : row.k = some k := by
  obtain ⟨fields, -, hrow⟩ := h
  exact hrow.k

/-- **A table that is extracted** is built, and has the rows that its file delivers. -/
theorem delivers_of_extract {e : Extraction} (h : input.extract files = .ok e) :
    e.table.Built ∧ e.accepted = e.table.rows.length ∧ input.Delivers files e.table.rows := by
  unfold extract Session.extractionOf at h
  cases hopen : files.openFile input.path with
  | error fault =>
    rw [hopen] at h
    cases h
  | ok feed =>
    rw [hopen] at h
    dsimp only at h
    have hended : feed.fault = none := (Delimited.exists_ok_iff.1 ⟨e, h⟩).1
    rcases Delimited.extract_cases (some input.k) feed with ⟨-, fault, hfault, -⟩ |
      ⟨fields, error, -, -, -, hextract⟩ |
      ⟨first, rest, header, columns, hrecords, hfields, -, -, hcolumns, hextract⟩
    · rw [hended] at hfault
      cases hfault
    · rw [hextract] at h
      cases h
    · rw [hextract, hended] at h
      cases h
      have hreads := Delimited.reads_extractRecords hcolumns (some input.k) rest
      refine ⟨.merge (.ofKernels _) (.ofRows _), hreads.length, ?_, ?_⟩
      · exact ⟨feed, first, rest, header, hopen, hended, hrecords, hfields, hreads.rows⟩
      · exact forall_right_of_forall₂ hreads.rows fun record row => labelled_of_says

/-! ### Steps -/

theorem toOption_eq_some_iff {ε β : Type} {x : Except ε β} {b : β} : x.toOption = some b ↔ x = .ok b := by
  cases x <;> simp [Except.toOption]

def table? (input : GridInput) (files : FileSystem) : Option (Table Float) :=
  (input.extract files).toOption.map (·.table)

def failure? (input : GridInput) (files : FileSystem) : Option Failure :=
  match input.extract files with
  | .ok _ => none
  | .error error => if error.isFatal then some (.readResults input.path error) else none

theorem isSome_failure?_iff : (input.failure? files).isSome = true ↔ input.Unreadable files := by
  unfold failure?
  rcases extract_cases input files with ⟨e, hextract, hread, -⟩ | ⟨error, hextract, hfatal, hread, -⟩ |
    ⟨error, hextract, hfatal, hread, -⟩
  · simp [hextract, hread]
  · simp [hextract, hfatal, hread]
  · simp [hextract, hfatal, hread]

instance (input : GridInput) (files : FileSystem) : Decidable (input.Unreadable files) :=
  decidable_of_iff _ isSome_failure?_iff

/-- Nothing comes of an input with a bad header. -/
theorem BadHeader.eq_none (h : input.BadHeader files) :
    input.failure? files = none ∧ input.table? files = none := by
  unfold failure? table?
  rcases extract_cases input files with ⟨e, -, -, hheader⟩ | ⟨error, -, -, -, hheader⟩ |
    ⟨error, hextract, hfatal, -, -⟩
  · exact absurd h hheader
  · exact absurd h hheader
  · rw [hextract]
    exact ⟨if_neg (by simp [hfatal]), rfl⟩

theorem runOn_loadInput (table : Table Float) (input : GridInput) (world : World) : ∃ events,
    (GridPlot.loadInput table input).runOn world =
      (match input.failure? world.files with
        | some failure => .error failure
        | none => .ok ((input.table? world.files).elim table table.merge),
        { world with log := world.log ++ events }) := by
  obtain ⟨events, hread⟩ :=
    Session.runOn_extractFile (Delimited.extract (some input.k)) input.path world
  unfold GridPlot.loadInput failure? table? extract
  rw [Session.runOn_bind, hread]
  dsimp only
  cases Session.extractionOf (Delimited.extract (some input.k)) input.path world.files with
  | ok e => exact ⟨events, rfl⟩
  | error e =>
    dsimp only
    cases hfatal : e.isFatal with
    | true => exact ⟨events, rfl⟩
    | false =>
      -- an input that is left out is logged once more
      refine ⟨events ++ [.ignoredInput input.path e], ?_⟩
      rw [← List.append_assoc]
      rfl

end GridInput

/-! ## All inputs -/

namespace GridPlot

/-- the inputs that can be extracted, in order, each with what is extracted from it -/
def extracted (plot : GridPlot) (files : FileSystem) : List (GridInput × Extraction) :=
  plot.inputs.filterMap fun input => (input.extract files).toOption.map fun e => (input, e)

def tables (plot : GridPlot) (files : FileSystem) : List (Table Float) :=
  (plot.extracted files).map (·.2.table)

theorem tables_eq (plot : GridPlot) (files : FileSystem) :
    plot.tables files = plot.inputs.filterMap (·.table? files) := by
  unfold tables extracted
  rw [List.map_filterMap]
  simp only [Option.map_map]
  rfl

theorem mem_extracted {plot : GridPlot} {files : FileSystem} {source : GridInput × Extraction} :
    source ∈ plot.extracted files ↔ source.1 ∈ plot.inputs ∧ source.1.extract files = .ok source.2 := by
  obtain ⟨input, e⟩ := source
  rw [extracted, List.mem_filterMap]
  constructor
  · rintro ⟨input', hinput, hmap⟩
    obtain ⟨e', he, heq⟩ := Option.map_eq_some_iff.1 hmap
    cases heq
    exact ⟨hinput, GridInput.toOption_eq_some_iff.1 he⟩
  · rintro ⟨hinput, hextract⟩
    exact ⟨input, hinput, Option.map_eq_some_iff.2 ⟨e, GridInput.toOption_eq_some_iff.2 hextract, rfl⟩⟩

theorem runOn_foldlM_loadInput (table : Table Float) (inputs : List GridInput) (world : World) :
    ∃ events, (inputs.foldlM loadInput table).runOn world =
      (match inputs.findSome? (·.failure? world.files) with
        | some failure => .error failure
        | none => .ok ((inputs.filterMap (·.table? world.files)).foldl Table.merge table),
        { world with log := world.log ++ events }) := by
  induction inputs generalizing table world with
  | nil => exact ⟨[], by simp [Session.runOn_pure]⟩
  | cons input inputs ih =>
    obtain ⟨events, hinput⟩ := input.runOn_loadInput table world
    rw [List.foldlM_cons, Session.runOn_bind, hinput, List.findSome?_cons]
    cases input.failure? world.files with
    | some failure => exact ⟨events, rfl⟩
    | none =>
      dsimp only
      rw [List.filterMap_cons]
      obtain ⟨later, hlater⟩ := ih ((input.table? world.files).elim table table.merge)
        { world with log := world.log ++ events }
      refine ⟨events ++ later, ?_⟩
      rw [← List.append_assoc, hlater]
      cases input.table? world.files <;> rfl

/-- **Loading** ends at the first input that cannot be read, and merges the tables of the others from left
to right.  It changes no file. -/
theorem runOn_load (plot : GridPlot) (world : World) : ∃ events, plot.load.runOn world =
    (match plot.inputs.findSome? (·.failure? world.files) with
      | some failure => .error failure
      | none => .ok ((plot.tables world.files).foldl Table.merge .empty),
      { world with log := world.log ++ events }) := by
  rw [tables_eq]
  exact runOn_foldlM_loadInput .empty plot.inputs world

section

variable {plot : GridPlot} {world : World}

theorem load_onlyLogs (plot : GridPlot) : plot.load.OnlyLogs := by
  intro world
  obtain ⟨events, hload⟩ := plot.runOn_load world
  exact ⟨_, congrArg Prod.snd hload⟩

theorem load_ignoresLog (plot : GridPlot) : plot.load.IgnoresLog := by
  intro world log
  obtain ⟨events, hload⟩ := plot.runOn_load world
  obtain ⟨others, hother⟩ := plot.runOn_load { world with log }
  exact ⟨_, by rw [hload, hother]⟩

theorem findSome?_failure?_eq_none_iff {inputs : List GridInput} {files : FileSystem} :
    inputs.findSome? (·.failure? files) = none ↔ ∀ input ∈ inputs, ¬ input.Unreadable files := by
  simp only [List.findSome?_eq_none_iff, ← GridInput.isSome_failure?_iff, Option.not_isSome_iff_eq_none]

theorem load_eq_ok_iff {table : Table Float} : (plot.load.runOn world).1 = .ok table ↔
    (∀ input ∈ plot.inputs, ¬ input.Unreadable world.files) ∧
      table = (plot.tables world.files).foldl Table.merge .empty := by
  obtain ⟨events, hload⟩ := plot.runOn_load world
  rw [hload, ← findSome?_failure?_eq_none_iff]
  cases plot.inputs.findSome? (·.failure? world.files) with
  | none => simp [eq_comm]
  | some failure => simp

theorem exists_load_eq_error_iff : (∃ failure, (plot.load.runOn world).1 = .error failure) ↔
    ∃ input ∈ plot.inputs, input.Unreadable world.files := by
  rw [← not_iff_not]
  simp only [not_exists, not_and]
  rw [← findSome?_failure?_eq_none_iff]
  obtain ⟨events, hload⟩ := plot.runOn_load world
  rw [hload]
  cases plot.inputs.findSome? (·.failure? world.files) with
  | none => simp
  | some failure => simp

/-- **The first input that cannot be read** is the one that is complained about. -/
theorem load_eq_error {before after : List GridInput} {input : GridInput}
    (hinputs : plot.inputs = before ++ input :: after)
    (hbefore : ∀ other ∈ before, ¬ other.Unreadable world.files) (h : input.Unreadable world.files) :
    ∃ error, input.extract world.files = .error error ∧
      (plot.load.runOn world).1 = .error (.readResults input.path error) := by
  obtain ⟨events, hload⟩ := plot.runOn_load world
  rw [hload, hinputs, List.findSome?_append, findSome?_failure?_eq_none_iff.2 hbefore, Option.none_or,
    List.findSome?_cons]
  rcases input.extract_cases world.files with ⟨-, -, hread, -⟩ | ⟨error, hextract, hfatal, -, -⟩ |
    ⟨-, -, -, hread, -⟩
  · exact absurd h hread
  · refine ⟨error, hextract, ?_⟩
    simp only [GridInput.failure?, hextract, hfatal, if_true]
  · exact absurd h hread

theorem built_of_mem_extracted {files : FileSystem} {source : GridInput × Extraction}
    (h : source ∈ plot.extracted files) : source.2.table.Built :=
  (GridInput.delivers_of_extract (mem_extracted.1 h).2).1

theorem wellFormed_tables (plot : GridPlot) (files : FileSystem) :
    ∀ t ∈ plot.tables files, t.WellFormed := by
  intro t ht
  obtain ⟨source, hsource, rfl⟩ := List.mem_map.1 ht
  exact (built_of_mem_extracted hsource).wellFormed

/-! ### Inputs that are left out -/

theorem filterMap_filter_eq {β γ : Type} {f : β → Option γ} {p : β → Bool}
    (h : ∀ b, p b = false → f b = none) (l : List β) : (l.filter p).filterMap f = l.filterMap f := by
  rw [List.filterMap_filter]
  refine List.filterMap_congr ?_
  intro b _
  cases hb : p b with
  | true => rfl
  | false => exact (h b hb).symm

/-- **Inputs with a bad header may come and go**: what is loaded depends on the other inputs only. -/
theorem load_congr {inputs : List GridInput}
    (h : inputs.filter (fun input => ¬ input.BadHeader world.files) =
      plot.inputs.filter fun input => ¬ input.BadHeader world.files) :
    (({ plot with inputs } : GridPlot).load.runOn world).1 = (plot.load.runOn world).1 := by
  have hnone : ∀ input : GridInput, decide (¬ input.BadHeader world.files) = false →
      input.failure? world.files = none ∧ input.table? world.files = none := by
    intro input hinput
    rw [decide_eq_false_iff_not, not_not] at hinput
    exact hinput.eq_none
  have hfailures : inputs.filterMap (·.failure? world.files) =
      plot.inputs.filterMap (·.failure? world.files) := by
    have hfilter := filterMap_filter_eq fun input hinput => (hnone input hinput).1
    rw [← hfilter inputs, h, hfilter]
  have htables : inputs.filterMap (·.table? world.files) = plot.inputs.filterMap (·.table? world.files) := by
    have hfilter := filterMap_filter_eq fun input hinput => (hnone input hinput).2
    rw [← hfilter inputs, h, hfilter]
  obtain ⟨events, hload⟩ := plot.runOn_load world
  obtain ⟨others, hothers⟩ := ({ plot with inputs } : GridPlot).runOn_load world
  rw [hload, hothers, tables_eq, tables_eq, ← List.head?_filterMap, ← List.head?_filterMap]
  dsimp only
  rw [hfailures, htables]

/-! ### What is loaded -/

/-- the rows of the inputs that can be extracted, in order, each with its input -/
def sourceRows (plot : GridPlot) (files : FileSystem) : List (GridInput × Observation Float) :=
  (plot.extracted files).flatMap fun source => source.2.table.rows.map fun row => (source.1, row)

theorem map_snd_sourceRows (plot : GridPlot) (files : FileSystem) :
    (plot.sourceRows files).map (·.2) = (plot.tables files).flatMap (·.rows) := by
  unfold sourceRows tables
  rw [List.map_flatMap, List.flatMap_map]
  refine List.flatMap_congr ?_
  intro source _
  rw [List.map_map]
  exact List.map_id _

theorem labelled_of_mem_sourceRows {files : FileSystem} {place : GridInput × Observation Float}
    (h : place ∈ plot.sourceRows files) : place.2.k = some place.1.k := by
  obtain ⟨source, hsource, hplace⟩ := List.mem_flatMap.1 h
  obtain ⟨row, hrow, rfl⟩ := List.mem_map.1 hplace
  obtain ⟨-, -, hdelivers⟩ := GridInput.delivers_of_extract (mem_extracted.1 hsource).2
  exact hdelivers.labelled row hrow

/-- The rows of the inputs get into the table with all that they measured. -/
theorem forall₂_sourceRows (plot : GridPlot) (files : FileSystem) :
    List.Forall₂ (fun place row => place.2.SameMeasurements row ∧ row.k = some place.1.k)
      (plot.sourceRows files) ((plot.tables files).foldl Table.merge .empty).rows := by
  have hsame := Table.forall₂_foldl_merge (plot.wellFormed_tables files)
  rw [← map_snd_sourceRows, List.forall₂_map_left_iff] at hsame
  have hlabelled := (List.forall₂_and_left _ _).2 ⟨fun place => labelled_of_mem_sourceRows, hsame⟩
  refine hlabelled.imp ?_
  rintro place row ⟨hlabel, hrow⟩
  exact ⟨hrow, hrow.k.trans hlabel⟩

theorem length_rows_load (plot : GridPlot) (files : FileSystem) :
    ((plot.tables files).foldl Table.merge .empty).rows.length =
      ((plot.extracted files).map (·.2.accepted)).sum := by
  rw [← (Table.forall₂_foldl_merge (plot.wellFormed_tables files)).length_eq, List.length_flatMap, tables,
    List.map_map]
  congr 1
  refine List.map_congr_left ?_
  intro source hsource
  exact (GridInput.delivers_of_extract (mem_extracted.1 hsource).2).2.1.symm

/-- Whatever becomes of one input, the others are loaded as they are. -/
structure Contained (plot : GridPlot) (world : World) : Prop where
  /-- loading fails exactly if an input cannot be read -/
  fails_iff : (∃ failure, (plot.load.runOn world).1 = .error failure) ↔
    ∃ input ∈ plot.inputs, input.Unreadable world.files
  /-- it is the first of these inputs that is complained about -/
  first : ∀ before input after, plot.inputs = before ++ input :: after →
    (∀ other ∈ before, ¬ other.Unreadable world.files) → input.Unreadable world.files →
      ∃ error, input.extract world.files = .error error ∧
        (plot.load.runOn world).1 = .error (.readResults input.path error)
  /-- otherwise the tables that are extracted are merged from left to right -/
  merged : (∀ input ∈ plot.inputs, ¬ input.Unreadable world.files) →
    (plot.load.runOn world).1 =
      .ok (((plot.extracted world.files).map (·.2.table)).foldl Table.merge .empty)
  /-- inputs with a bad header may come and go -/
  ignored : ∀ inputs : List GridInput,
    inputs.filter (fun input => ¬ input.BadHeader world.files) =
        plot.inputs.filter (fun input => ¬ input.BadHeader world.files) →
      (({ plot with inputs } : GridPlot).load.runOn world).1 = (plot.load.runOn world).1
  /-- what is extracted is what the records of the file say -/
  delivers : ∀ input ∈ plot.inputs, ¬ input.Unreadable world.files → ¬ input.BadHeader world.files →
    ∃ e, (input, e) ∈ plot.extracted world.files ∧ e.accepted = e.table.rows.length ∧
      input.Delivers world.files e.table.rows
  /-- all accepted rows are loaded -/
  accepted : ∀ table, (plot.load.runOn world).1 = .ok table →
    table.rows.length = ((plot.extracted world.files).map (·.2.accepted)).sum
  /-- with the width of their input and all that they measured -/
  rows : ∀ table, (plot.load.runOn world).1 = .ok table →
    List.Forall₂ (fun place row => place.2.SameMeasurements row ∧ row.k = some place.1.k)
      (plot.sourceRows world.files) table.rows

/-- **What happens to one input does not touch the others**, whatever the inputs and the files are. -/
theorem load_contained (plot : GridPlot) (world : World) : plot.Contained world := by
  constructor
  case fails_iff => exact exists_load_eq_error_iff
  case first => exact fun before input after => load_eq_error
  case merged => exact fun h => load_eq_ok_iff.2 ⟨h, rfl⟩
  case ignored => exact fun inputs h => load_congr h
  case delivers =>
    intro input hinput hreadable hheader
    rcases input.extract_cases world.files with ⟨e, hextract, -⟩ | ⟨-, -, -, hunreadable, -⟩ |
      ⟨-, -, -, -, hbad⟩
    · obtain ⟨-, haccepted, hdelivers⟩ := GridInput.delivers_of_extract hextract
      exact ⟨e, mem_extracted.2 ⟨hinput, hextract⟩, haccepted, hdelivers⟩
    · exact absurd hunreadable hreadable
    · exact absurd hbad hheader
  case accepted =>
    intro table hload
    obtain ⟨-, rfl⟩ := load_eq_ok_iff.1 hload
    exact length_rows_load plot world.files
  case rows =>
    intro table hload
    obtain ⟨-, rfl⟩ := load_eq_ok_iff.1 hload
    exact forall₂_sourceRows plot world.files

end

end GridPlot

end KernelCharts
