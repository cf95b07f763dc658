import KernelCharts.Proofs.Chart.Separation
import KernelCharts.Proofs.Grid.Load

/-!
# The order of the inputs

Inputs that are listed in another order are merged in another order, and so the rows of the table stand in
another order, too.  As long as every width has one input only, the rows of a width keep their order, and
nothing else counts.

* `flatMap_eq_of_perm` — pieces may change places if all but one are empty;
* `GridPlot.normalize_load_perm` — the tables in another order come to the same charts;
* `GridPlot.runOn_run_of_load` — what is left to do when the tables are loaded;
* `GridPlot.agrees_perm` — the order of the inputs does not matter.
-/

namespace KernelCharts

/-! ## Pieces in another order -/

/-- **Pieces may change places** if of any two one is empty. -/
theorem flatMap_eq_of_perm {β γ : Type} {f : β → List γ} {l m : List β} (h : l.Perm m)
    (hempty : l.Pairwise fun a b => f a = [] ∨ f b = []) : l.flatMap f = m.flatMap f := by
  induction h with
  | nil => rfl
  | cons a _ ih => rw [List.flatMap_cons, List.flatMap_cons, ih hempty.of_cons]
  | swap a b l =>
    have hab : f b = [] ∨ f a = [] := (List.pairwise_cons.1 hempty).1 a List.mem_cons_self
    simp only [List.flatMap_cons]
    rcases hab with h | h <;> simp [h]
  | trans h _ ih ih' =>
    have hsymm : ∀ {a b : β}, f a = [] ∨ f b = [] → f b = [] ∨ f a = [] := Or.symm
    rw [ih hempty, ih' ((h.pairwise_iff hsymm).1 hempty)]

namespace GridPlot

variable {plot : GridPlot} {inputs : List GridInput} {files : FileSystem}

/-! ## Tables in another order -/

/-- the rows of a width that an extracted input has -/
def rowsOf (k : Nat) (source : GridInput × Extraction) : List (Observation Float) :=
  source.2.table.rows.filter fun row => row.k == some k

theorem extracted_perm (h : inputs.Perm plot.inputs) (files : FileSystem) :
    (({ plot with inputs } : GridPlot).extracted files).Perm (plot.extracted files) :=
  h.filterMap _

/-- An input has rows of its own width only. -/
theorem rowsOf_eq_nil {source : GridInput × Extraction} (h : source ∈ plot.extracted files) {k : Nat}
    (hk : source.1.k ≠ k) : rowsOf k source = [] := by
  obtain ⟨-, -, hdelivers⟩ := GridInput.delivers_of_extract (mem_extracted.1 h).2
  refine List.filter_eq_nil_iff.2 ?_
  intro row hrow
  rw [hdelivers.labelled row hrow, beq_iff_eq, Option.some.injEq]
  exact hk

theorem pairwise_rowsOf (hdistinct : (plot.inputs.map (·.k)).Nodup) (files : FileSystem) (k : Nat) :
    (plot.extracted files).Pairwise fun a b => rowsOf k a = [] ∨ rowsOf k b = [] := by
  have hne : (plot.extracted files).Pairwise fun a b => a.1.k ≠ b.1.k := by
    refine (List.pairwise_map.1 hdistinct).filterMap _ ?_
    intro input input' hne a ha b hb
    obtain ⟨e, -, rfl⟩ := Option.map_eq_some_iff.1 ha
    obtain ⟨e', -, rfl⟩ := Option.map_eq_some_iff.1 hb
    exact hne
  refine hne.imp_of_mem ?_
  intro a b ha hb hab
  by_cases hk : a.1.k = k
  · exact .inr (rowsOf_eq_nil hb fun h => hab (hk.trans h.symm))
  · exact .inl (rowsOf_eq_nil ha hk)

/-- the rows of a width, among those of all tables -/
theorem rowsAt_load (plot : GridPlot) (files : FileSystem) (k : Nat) :
    ((plot.tables files).foldl Table.merge .empty).rowsAt k =
      ((plot.extracted files).flatMap (rowsOf k)).map
        (·.conform (Kernel.catalogued ((plot.tables files).flatMap (·.kernels)))) := by
  have hrows : (plot.tables files).flatMap (·.rows) =
      (plot.extracted files).flatMap (·.2.table.rows) := by
    rw [tables, List.flatMap_map]
  have hwidth : ∀ kernels, (fun row : Observation Float => row.k == some k) ∘ (Observation.conform kernels) =
      fun row => row.k == some k := fun _ => rfl
  rw [Table.foldl_merge_eq (plot.wellFormed_tables files), Table.rowsAt, Table.rows_extend, Table.ofKernels,
    List.nil_append, List.filter_map, hwidth, hrows, List.filter_flatMap]
  rfl

theorem kernels_load (plot : GridPlot) (files : FileSystem) :
    ((plot.tables files).foldl Table.merge .empty).kernels =
      Kernel.catalogued ((plot.tables files).flatMap (·.kernels)) := by
  rw [Table.foldl_merge_eq (plot.wellFormed_tables files)]
  rfl

theorem catalogued_tables_perm (h : inputs.Perm plot.inputs) (files : FileSystem) :
    Kernel.catalogued ((({ plot with inputs } : GridPlot).tables files).flatMap (·.kernels)) =
      Kernel.catalogued ((plot.tables files).flatMap (·.kernels)) := by
  have htables : (({ plot with inputs } : GridPlot).tables files).Perm (plot.tables files) :=
    (extracted_perm h files).map _
  refine Kernel.catalogued_congr ?_
  intro kernel
  exact (htables.flatMap_right _).mem_iff

/-- **Another order of the inputs** changes neither the kernels nor the rows of any width. -/
theorem normalize_load_perm (h : inputs.Perm plot.inputs) (hdistinct : (plot.inputs.map (·.k)).Nodup)
    (files : FileSystem) (s : Selection) :
    ((({ plot with inputs } : GridPlot).tables files).foldl Table.merge .empty).normalize s =
      ((plot.tables files).foldl Table.merge .empty).normalize s := by
  have hkernels := catalogued_tables_perm h files
  refine Table.normalize_ext ?_
  intro k
  refine Table.normalize_at_congr s ?_ ?_
  · rw [kernels_load, kernels_load, hkernels]
  · have hrows : (({ plot with inputs } : GridPlot).extracted files).flatMap (rowsOf k) =
        (plot.extracted files).flatMap (rowsOf k) :=
      (flatMap_eq_of_perm (extracted_perm h files).symm (pairwise_rowsOf hdistinct files k)).symm
    rw [Table.sortedAt, Table.sortedAt, rowsAt_load, rowsAt_load, hkernels, hrows]

theorem suffix_perm (h : inputs.Perm plot.inputs) :
    ({ plot with inputs } : GridPlot).suffix = plot.suffix := by
  have hwidths : ascending (inputs.map (·.k)) = ascending (plot.inputs.map (·.k)) :=
    ascending_congr fun k => (h.map _).mem_iff
  unfold suffix
  rw [hwidths]

/-! ## Running -/

theorem draw_ignoresLog (normalized : Normalized Float) (stem directory : String) (settings : Settings) :
    (draw normalized stem directory settings).IgnoresLog := by
  unfold draw
  cases GridLayout.ofCount? normalized.groups.length with
  | none => exact (Session.IgnoresLog.log _).bind fun _ => .pure _
  | some layout =>
    refine (Session.IgnoresLog.log _).bind fun _ => (saveFigure_ignoresLog _ _ _ _ _).bind fun figures => ?_
    exact (Session.IgnoresLog.log _).bind fun _ => .pure _

/-- **A plot whose tables are loaded** goes on with their charts. -/
theorem runOn_run_of_load {world : World} {table : Table Float} (directory : String) (settings : Settings)
    (h : (plot.load.runOn world).1 = .ok table) : ∃ log, (plot.run directory settings).runOn world =
      (draw (table.normalize plot.selection) ("sddmm_" ++ plot.suffix) directory settings).runOn
        { world with log } := by
  obtain ⟨log, hload⟩ := plot.load_onlyLogs.runOn_of_fst h
  unfold run
  rw [Session.runOn_bind, hload]
  refine ⟨log ++ normalizeEvents table plot.selection, ?_⟩
  dsimp only
  rw [Session.runOn_bind, Session.runOn_log]

/-- Two plots show the same in a world: their tables are loaded and come to the same charts, with the same
legend, layout and file names, and running them has the same result and leaves the same files. -/
structure Agrees (plot other : GridPlot) (world : World) : Prop where
  charts : ∃ table table', (plot.load.runOn world).1 = .ok table ∧ (other.load.runOn world).1 = .ok table' ∧
    table'.normalize other.selection = table.normalize plot.selection ∧
    Grid.legendOf (table'.normalize other.selection).groups =
      Grid.legendOf (table.normalize plot.selection).groups ∧
    GridLayout.ofCount? (table'.normalize other.selection).groups.length =
      GridLayout.ofCount? (table.normalize plot.selection).groups.length
  suffix : other.suffix = plot.suffix
  result : ∀ directory settings, ((other.run directory settings).runOn world).1 =
    ((plot.run directory settings).runOn world).1
  files : ∀ directory settings, ((other.run directory settings).runOn world).2.files =
    ((plot.run directory settings).runOn world).2.files

/-- **The order of the inputs does not matter**, if all of them can be read and no two have the same width. -/
theorem agrees_perm {world : World} (h : inputs.Perm plot.inputs) (hdistinct : (plot.inputs.map (·.k)).Nodup)
    (hreadable : ∀ input ∈ plot.inputs, ¬ input.Unreadable world.files) :
    plot.Agrees { plot with inputs } world := by
  have hload : (plot.load.runOn world).1 = .ok ((plot.tables world.files).foldl Table.merge .empty) :=
    load_eq_ok_iff.2 ⟨hreadable, rfl⟩
  have hother : (({ plot with inputs } : GridPlot).load.runOn world).1 =
      .ok ((({ plot with inputs } : GridPlot).tables world.files).foldl Table.merge .empty) :=
    load_eq_ok_iff.2 ⟨fun input hinput => hreadable input (h.mem_iff.1 hinput), rfl⟩
  have hcharts := normalize_load_perm h hdistinct world.files plot.selection
  have hrun : ∀ directory settings,
      ((({ plot with inputs } : GridPlot).run directory settings).runOn world).1 =
          ((plot.run directory settings).runOn world).1 ∧
        ((({ plot with inputs } : GridPlot).run directory settings).runOn world).2.files =
          ((plot.run directory settings).runOn world).2.files := by
    intro directory settings
    obtain ⟨log, hplot⟩ := runOn_run_of_load directory settings hload
    obtain ⟨log', hinputs⟩ := runOn_run_of_load directory settings hother
    have hselection : ({ plot with inputs } : GridPlot).selection = plot.selection := rfl
    rw [hplot, hinputs, hselection, hcharts, suffix_perm h]
    exact (draw_ignoresLog _ _ directory settings).same world log' log
  constructor
  case charts =>
    refine ⟨_, _, hload, hother, hcharts, ?_, ?_⟩
    · exact congrArg (fun n => Grid.legendOf n.groups) hcharts
    · exact congrArg (fun n => GridLayout.ofCount? n.groups.length) hcharts
  case suffix => exact suffix_perm h
  case result => exact fun directory settings => (hrun directory settings).1
  case files => exact fun directory settings => (hrun directory settings).2

/-- a world with two tables, of which one has a kernel more and its rows in another order -/
def twoTables : World :=
  ⟨⟨[(["a.csv"], .file (.bytes "file,NNZ,BSMR\na.mtx,150000,1\nb.mtx,200000,2\n".toUTF8.data.toList)),
    (["b.csv"], .file (.bytes "NNZ,RoDe,file,BSMR\n200000,3,b.mtx,4\n150000,,a.mtx,5\n".toUTF8.data.toList))],
      []⟩, []⟩

def twoInputs : GridPlot := ⟨[⟨64, "a.csv"⟩, ⟨32, "b.csv"⟩], .bsmr, none, none⟩

theorem agrees_perm_twoInputs :
    twoInputs.inputs.reverse.Perm twoInputs.inputs ∧ (twoInputs.inputs.map (·.k)).Nodup ∧
      (∀ input ∈ twoInputs.inputs, ¬ input.Unreadable twoTables.files) ∧
      twoInputs.Agrees { twoInputs with inputs := twoInputs.inputs.reverse } twoTables := by
  have hperm : twoInputs.inputs.reverse.Perm twoInputs.inputs := List.reverse_perm _
  have hdistinct : (twoInputs.inputs.map (·.k)).Nodup := by decide
  have hreadable : ∀ input ∈ twoInputs.inputs, ¬ input.Unreadable twoTables.files := by decide +kernel
  exact ⟨hperm, hdistinct, hreadable, agrees_perm hperm hdistinct hreadable⟩

end GridPlot

end KernelCharts
