import KernelCharts.Proofs.Report.Context
import KernelCharts.Proofs.Report.Reading
import KernelCharts.Proofs.Report.Row
import Mathlib.Data.List.DropRight

/-!
# Which matrix a row belongs to

A line that names a matrix has the form `prefix file: path`, the path running to the end of the line.
Only the file name at the end of the path is taken over, and only if the path has no blanks and the
file name none of the characters that end it.

* `NamesMatrix`, `Plain` — lines that name a matrix, and paths that are read as a whole;
* `NamesMatrix.contextFile?_eq` — such a line names the last part of its path;
* `Documented`, `PlainPaths` — reports that name matrices in this form only, and by plain paths;
* `extract_attributes` — every accepted row belongs to the nearest matrix named before it;
* `not_attributes_blankInName` — a path with a blank is passed over.
-/

namespace KernelCharts.Report

/-! ## Lines that name a matrix -/

/-- the extension of the files that hold matrices -/
def matrixExtension : List Char := ".mtx".toList

/-- The line is `prefix file: path`: it has the word `file` only there, the prefix is empty or ends in a
blank, and the path ends in `.mtx` and does not start with a blank. -/
def NamesMatrix (line path : List Char) : Prop :=
  ∃ before, line = before ++ (fileWord ++ (": ".toList ++ path)) ∧
    ¬ fileWord <:+: before ∧ ¬ fileWord <:+: path ∧
    before.getLast?.all Text.isBlank = true ∧ path.head?.any Text.isBlank = false ∧
    matrixExtension <:+ path

def lastPart (path : List Char) : List Char := path.rtakeWhile (· ≠ '/')

/-- The path is read as a whole: it has no blanks, and its last part is an extended name. -/
structure Plain (path : List Char) : Prop where
  blankless : ∀ c ∈ path, Text.isBlank c = false
  comma : ',' ∉ lastPart path
  bar : '|' ∉ lastPart path
  named : lastPart path ≠ matrixExtension

/-- the directories of a path: the text up to its last slash -/
def directories (path : List Char) : List Char := path.rdropWhile (· ≠ '/')

theorem directories_append_lastPart (path : List Char) : directories path ++ lastPart path = path :=
  List.rdropWhile_append_rtakeWhile

theorem lastPart_append {s t : List Char} (h : '/' ∉ t) : lastPart (s ++ t) = lastPart s ++ t := by
  have hall : ∀ c ∈ t.reverse, decide (c ≠ '/') = true := by
    intro c hc
    rw [decide_eq_true_eq]
    rintro rfl
    exact h (List.mem_reverse.1 hc)
  rw [lastPart, List.rtakeWhile, List.reverse_append, List.takeWhile_append_of_pos hall,
    List.reverse_append, List.reverse_reverse]
  rfl

namespace Plain

variable {path : List Char}

theorem isDirectory (h : Plain path) : IsDirectory (directories path) where
  slash := by
    by_cases hne : directories path = []
    · exact .inl hne
    · have hlast := List.rdropWhile_last_not _ path hne
      rw [decide_eq_true_eq, not_not] at hlast
      exact .inr ⟨_, hlast ▸ (List.dropLast_append_getLast hne).symm⟩
  blankless := fun c hc => h.blankless c ((List.rdropWhile_prefix _ path).subset hc)

theorem isNameChar (h : Plain path) : ∀ c ∈ lastPart path, isNameChar c = true := by
  intro c hc
  have hslash : c ≠ '/' := by simpa using List.mem_rtakeWhile_imp hc
  have hcomma : c ≠ ',' := fun heq => h.comma (heq ▸ hc)
  have hbar : c ≠ '|' := fun heq => h.bar (heq ▸ hc)
  have hblank := h.blankless c ((List.rtakeWhile_suffix _ path).subset hc)
  simp [Report.isNameChar, hslash, hcomma, hbar, hblank]

theorem exists_fileName (h : Plain path) (hextension : matrixExtension <:+ path) :
    ∃ name : FileName, name.text = lastPart path := by
  obtain ⟨stems, rfl⟩ := hextension
  have hlast : lastPart (stems ++ matrixExtension) = lastPart stems ++ '.' :: "mtx".toList :=
    lastPart_append (by decide)
  have hstem : lastPart stems ≠ [] := by
    intro hnil
    rw [hnil] at hlast
    exact h.named hlast
  refine ⟨⟨lastPart stems, "mtx".toList, hstem, fun c hc => h.isNameChar c ?_, by decide,
      List.all_eq_true.1 (by decide)⟩,
    hlast.symm⟩
  rw [hlast]
  exact List.mem_append_left _ hc

end Plain

namespace NamesMatrix

variable {line path path' : List Char}

theorem mentions (h : NamesMatrix line path) : fileWord <:+: line := by
  obtain ⟨before, rfl, -⟩ := h
  exact ⟨before, ": ".toList ++ path, List.append_assoc ..⟩

/-- **A line that names a matrix names the last part of its path.** -/
theorem contextFile?_eq (h : NamesMatrix line path) (hplain : Plain path) :
    contextFile? line = some (lastPart path) := by
  obtain ⟨before, rfl, hbefore, -, hblank, -, hextension⟩ := h
  obtain ⟨name, hname⟩ := hplain.exists_fileName hextension
  have hnamed := contextFile?_path hbefore
    (fun c hc => Text.isWord_of_isBlank ((Option.all_eq_true _ _).1 hblank c hc))
    hplain.isDirectory name
  rw [hname, directories_append_lastPart] at hnamed
  exact hnamed

/-- **A line names one matrix at most.** -/
theorem unique (h : NamesMatrix line path) (h' : NamesMatrix line path') : path = path' := by
  obtain ⟨before, hline, hbefore, -⟩ := h
  obtain ⟨before', hline', hbefore', -⟩ := h'
  have hrest := (append_fileWord_inj hbefore hbefore' (hline.symm.trans hline')).2
  exact List.append_cancel_left hrest

end NamesMatrix

/-- Every line with the word `file` names a matrix. -/
def Documented (lines : List (List Char)) : Prop :=
  ∀ line ∈ lines, fileWord <:+: line → ∃ path, NamesMatrix line path

/-- Every path that names a matrix is read as a whole. -/
def PlainPaths (lines : List (List Char)) : Prop :=
  ∀ line ∈ lines, ∀ path, NamesMatrix line path → Plain path

/-! ## Rows -/

/-- the nearest line before a place that has the word `file` -/
def lastMention (lines : List (List Char)) (i : Nat) : Option (List Char) :=
  (lines.take i).reverse.find? fun line => fileWord <:+: line

def acceptedRows (lines : List (List Char)) : List (List Char × Nat) :=
  (dataRows lines).filter fun row => (observation? lines row).isSome

/-- A row of a table is what a row of a report says, and belongs to the matrix that the nearest line
before it with the word `file` names: the last part of its path. -/
structure Attributed (lines : List (List Char)) (row : List Char × Nat)
    (observation : Observation Float) : Prop where
  said : ∃ said, observation? lines row = some said ∧ said.SameMeasurements observation
  source : ∃ line, lastMention lines row.2 = some line ∧
    ∀ path, NamesMatrix line path → observation.source = String.ofList (lastPart path)

theorem findSome?_eq_find?_bind {β γ : Type} {f : β → Option γ} {p : β → Bool} {l : List β}
    (h : ∀ b ∈ l, (f b).isSome = p b) : l.findSome? f = (l.find? p).bind f := by
  induction l with
  | nil => rfl
  | cons b l ih =>
    have hrest := ih fun b hb => h b (List.mem_cons_of_mem _ hb)
    rw [List.findSome?_cons, List.find?_cons, ← h b List.mem_cons_self]
    cases hb : f b with
    | none => exact hrest
    | some c => simp [hb]

/-- A relation with the images of some elements is one with the elements themselves. -/
theorem forall₂_filter_of_filterMap {β γ δ : Type} {f : β → Option γ} {R : γ → δ → Prop}
    {l : List β} {m : List δ} (h : List.Forall₂ R (l.filterMap f) m) :
    List.Forall₂ (fun b d => ∃ c, f b = some c ∧ R c d) (l.filter fun b => (f b).isSome) m := by
  induction l generalizing m with
  | nil =>
    cases h
    exact .nil
  | cons b l ih =>
    cases hb : f b with
    | none =>
      rw [List.filterMap_cons_none hb] at h
      simpa [hb] using ih h
    | some c =>
      rw [List.filterMap_cons_some hb] at h
      cases h with
      | cons hR h =>
        rw [List.filter_cons_of_pos (by rw [hb]; rfl)]
        exact .cons ⟨c, hb, hR⟩ (ih h)

/-- **The rows of the table** are what the accepted rows say, in order. -/
theorem forall₂_acceptedRows (lines : List (List Char)) :
    List.Forall₂ (fun place row => ∃ said, observation? lines place = some said ∧ said.SameMeasurements row)
      (acceptedRows lines) (extractLines (lines.map classify)).table.rows := by
  have hrows := forall₂_extractLines (lines.map classify)
  rw [filterMap_outcomes] at hrows
  exact forall₂_filter_of_filterMap hrows

section

variable {lines : List (List Char)} (h : Documented lines) (hplain : PlainPaths lines)

include h hplain

theorem isSome_contextFile? {line : List Char} (hline : line ∈ lines) :
    (contextFile? line).isSome = decide (fileWord <:+: line) := by
  by_cases hword : fileWord <:+: line
  · obtain ⟨path, hpath⟩ := h line hline hword
    rw [hpath.contextFile?_eq (hplain line hline path hpath), decide_eq_true hword]
    rfl
  · rw [contextFile?_eq_none hword, decide_eq_false hword]
    rfl

theorem fileBefore_eq (i : Nat) : fileBefore lines i = (lastMention lines i).bind contextFile? := by
  rw [fileBefore, lastFile, List.getLast?_filterMap]
  refine findSome?_eq_find?_bind fun line hline => isSome_contextFile? h hplain ?_
  exact List.mem_of_mem_take (List.mem_reverse.1 hline)

/-- **A row that is read belongs to the matrix named last.** -/
theorem attributed_of_observation? {row : List Char × Nat} {said observation : Observation Float}
    (hsaid : observation? lines row = some said) (hsame : said.SameMeasurements observation) :
    Attributed lines row observation := by
  refine ⟨⟨said, hsaid, hsame⟩, ?_⟩
  obtain ⟨file, hfile, hrow⟩ := exists_readRow_of_observation? hsaid
  rw [fileBefore_eq h hplain, Option.bind_eq_some_iff] at hfile
  obtain ⟨line, hline, hfile⟩ := hfile
  have hmem : line ∈ lines :=
    List.mem_of_mem_take (List.mem_reverse.1 (List.mem_of_find?_eq_some hline))
  refine ⟨line, hline, fun path hpath => ?_⟩
  rw [hpath.contextFile?_eq (hplain line hmem path hpath), Option.some.injEq] at hfile
  rw [hsame.source, Columns.source_of_readRow hrow, hfile]

end

/-! ## Reports -/

/-- The report is read, and every accepted row belongs to the nearest matrix named before it. -/
def Attributes (report : String) : Prop :=
  ∃ events e, extract (Feed.ofBytes report.toUTF8.data.toList) = (events, .ok e) ∧
    List.Forall₂ (Attributed (Text.lines report.toList)) (acceptedRows (Text.lines report.toList))
      e.table.rows

/-- **Every accepted row belongs to the nearest matrix named before it**, in every report whose lines
with the word `file` name a matrix by a plain path. -/
theorem extract_attributes {report : String} (h : Documented (Text.lines report.toList))
    (hplain : PlainPaths (Text.lines report.toList)) : Attributes report := by
  refine ⟨_, _, extract_text report, ?_⟩
  have hrows := forall₂_extractLines ((Text.lines report.toList).map classify)
  rw [filterMap_outcomes] at hrows
  refine (forall₂_filter_of_filterMap hrows).imp fun row observation => ?_
  rintro ⟨said, hsaid, hsame⟩
  exact attributed_of_observation? h hplain hsaid hsame

def belowDirectories : String :=
  "## M : 1, N: 2, file: /data/v1.2/a.mtx\n| 1 | 2 | 100 | 1 | 32 | | | | | |\n"

theorem extract_attributes_belowDirectories :
    Documented (Text.lines belowDirectories.toList) ∧ PlainPaths (Text.lines belowDirectories.toList) ∧
      Attributes belowDirectories := by
  have hlines : Text.lines belowDirectories.toList =
      ["## M : 1, N: 2, file: /data/v1.2/a.mtx".toList,
        "| 1 | 2 | 100 | 1 | 32 | | | | | |".toList] := by decide +kernel
  have hnames : NamesMatrix "## M : 1, N: 2, file: /data/v1.2/a.mtx".toList
      "/data/v1.2/a.mtx".toList := by
    refine ⟨"## M : 1, N: 2, ".toList, rfl, ?_, ?_, ?_, ?_, ?_⟩ <;> decide +kernel
  have hrow : ¬ fileWord <:+: "| 1 | 2 | 100 | 1 | 32 | | | | | |".toList := by decide +kernel
  have hplain : Plain "/data/v1.2/a.mtx".toList :=
    ⟨Text.blankless_of_any (by decide), by decide +kernel, by decide +kernel, by decide +kernel⟩
  have hdocumented : Documented (Text.lines belowDirectories.toList) := by
    rw [hlines]
    exact List.forall_mem_cons.2 ⟨fun _ => ⟨_, hnames⟩,
      List.forall_mem_singleton.2 fun hword => absurd hword hrow⟩
  have hpaths : PlainPaths (Text.lines belowDirectories.toList) := by
    rw [hlines]
    refine List.forall_mem_cons.2 ⟨fun path hpath => ?_,
      List.forall_mem_singleton.2 fun path hpath => absurd hpath.mentions hrow⟩
    rw [hpath.unique hnames]
    exact hplain
  exact ⟨hdocumented, hpaths, extract_attributes hdocumented hpaths⟩

def blankInName : String :=
  "file: a.mtx\n| 1 | 2 | 100 | 1 | 32 | | | | | |\nfile: b c.mtx\n| 3 | 4 | 200 | 1 | 32 | | | | | |\n"

/-- The second matrix is passed over, and its row goes to the first. -/
theorem not_attributes_blankInName :
    Documented (Text.lines blankInName.toList) ∧ ¬ Attributes blankInName := by
  have hlines : Text.lines blankInName.toList =
      ["file: a.mtx".toList, "| 1 | 2 | 100 | 1 | 32 | | | | | |".toList,
        "file: b c.mtx".toList, "| 3 | 4 | 200 | 1 | 32 | | | | | |".toList] := by decide +kernel
  have hfirst : NamesMatrix "file: a.mtx".toList "a.mtx".toList := by
    refine ⟨[], rfl, ?_, ?_, ?_, ?_, ?_⟩ <;> decide +kernel
  have hsecond : NamesMatrix "file: b c.mtx".toList "b c.mtx".toList := by
    refine ⟨[], rfl, ?_, ?_, ?_, ?_, ?_⟩ <;> decide +kernel
  constructor
  · rw [hlines]
    simp only [Documented, List.forall_mem_cons]
    exact ⟨fun _ => ⟨_, hfirst⟩, fun hword => absurd hword (by decide +kernel), fun _ => ⟨_, hsecond⟩,
      fun hword => absurd hword (by decide +kernel), by simp⟩
  · rintro ⟨events, e, hextract, hrows⟩
    have hsources : e.table.rows.map (·.source) = ["a.mtx", "a.mtx"] := by
      have h : ((extract (Feed.ofBytes blankInName.toUTF8.data.toList)).2.toOption.map fun e =>
          e.table.rows.map (·.source)) = some ["a.mtx", "a.mtx"] := by decide +kernel
      rw [hextract] at h
      exact Option.some.inj h
    have hplaces : (acceptedRows (Text.lines blankInName.toList)).map (·.2) = [1, 3] := by decide +kernel
    have hlast : lastMention (Text.lines blankInName.toList) 3 = some "file: b c.mtx".toList := by
      decide +kernel
    have hnamed : List.Forall₂ (fun i source => ∃ line,
        lastMention (Text.lines blankInName.toList) i = some line ∧
          ∀ path, NamesMatrix line path → source = String.ofList (lastPart path))
        [1, 3] ["a.mtx", "a.mtx"] := by
      rw [← hplaces, ← hsources, List.forall₂_map_left_iff, List.forall₂_map_right_iff]
      exact hrows.imp fun row observation h => h.source
    obtain ⟨⟨line, hline, hsource⟩, -⟩ := List.forall₂_cons.1 (List.forall₂_cons.1 hnamed).2
    rw [hlast, Option.some.injEq] at hline
    subst hline
    exact absurd (hsource _ hsecond) (by decide +kernel)

end KernelCharts.Report
