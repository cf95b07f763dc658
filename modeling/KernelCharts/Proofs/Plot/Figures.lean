import KernelCharts.Plot.Run
import KernelCharts.Proofs.Chart.Partition
import KernelCharts.Proofs.Grid.Load
import KernelCharts.Proofs.Line.Load
import KernelCharts.Proofs.Text.Pieces
import Mathlib.Data.List.Nodup

/-!
# Figures of a run

The name of a figure says which widths it shows, and nothing else: not which plot it belongs to, nor
which files the plot reads. So two plots of one run write different images only as long as they show
different widths.

* `Depicted` — what a figure shows, with the paths of its images;
* `Depicted.stem_inj`, `imagePath_inj` — a name, and a path, tell what they stand for;
* `Plot.depicted` — what the figures of a plot show, and `Plot.figures_of_run`;
* `plotStarts` — the worlds that the plots of a run start in, and `figures_of_runPlots`;
* `runPlots_nodup_iff` — when the figures of a run are distinct, and `not_nodup_twoLinePlots`, where
  they are not.
-/

namespace KernelCharts

/-! ## Paths of images -/

/-- what the images of a figure show -/
inductive Depicted where
  /-- the chart of one width -/
  | chart (k : Nat)
  /-- the charts of all tables with some widths, which are ascending -/
  | grid (widths : List Nat)
deriving DecidableEq, Repr

/-- the file name of a figure, without its extension -/
def Depicted.stem : Depicted → String
  | chart k => LinePlot.stem k
  | grid widths => "sddmm_" ++ "_".intercalate (widths.map fun k => s!"k{k}")

def Depicted.formats : Depicted → List OutputFormat
  | chart _ => [.png]
  | grid _ => [.png, .pdf]

/-- the paths of the images of a figure in a directory -/
def Depicted.paths (directory : String) (d : Depicted) : List String :=
  d.formats.map (imagePath directory d.stem)

/-! ### Names -/

def widthLabel (k : Nat) : List Char := 'k' :: Nat.toDigits 10 k

theorem widthLabel_inj {k l : Nat} (h : widthLabel k = widthLabel l) : k = l := by
  have hdigits := congrArg (Nat.ofDigitChars 10 · 0) (List.cons.inj h).2
  simpa only [Nat.ofDigitChars_ten_toDigits] using hdigits

/-- some widths as part of a file name -/
def widthLabels (ks : List Nat) : List Char := ['_'].intercalate (ks.map widthLabel)

theorem fields_widthLabels {ks : List Nat} (hne : ks ≠ []) :
    Text.fields '_' (widthLabels ks) = ks.map widthLabel := by
  refine Text.fields_intercalate (by simpa using hne) fun piece hpiece hbar => ?_
  obtain ⟨k, -, rfl⟩ := List.mem_map.1 hpiece
  rcases List.mem_cons.1 hbar with h | h
  · cases h
  · cases Nat.isDigit_of_mem_toDigits (by decide) (by decide) h

theorem widthLabels_ne_nil {ks : List Nat} (hne : ks ≠ []) : widthLabels ks ≠ [] := by
  intro h
  have hfields := fields_widthLabels hne
  rw [h] at hfields
  have hmem : [] ∈ ks.map widthLabel := hfields ▸ List.mem_cons_self
  obtain ⟨k, -, hk⟩ := List.mem_map.1 hmem
  cases hk

/-- **The file name of a grid tells its widths.** -/
theorem widthLabels_inj {ks ls : List Nat} (h : widthLabels ks = widthLabels ls) : ks = ls := by
  by_cases hk : ks = []
  · by_contra hl
    exact widthLabels_ne_nil (fun h' => hl (hk.trans h'.symm)) (h.symm.trans (by rw [hk]; rfl))
  · have hl : ls ≠ [] := by
      rintro rfl
      exact widthLabels_ne_nil hk h
    refine List.map_injective_iff.2 (fun _ _ => widthLabel_inj) ?_
    rw [← fields_widthLabels hk, ← fields_widthLabels hl, h]

theorem toList_stem_chart (k : Nat) :
    (Depicted.stem (.chart k)).toList = "gflops_line_".toList ++ widthLabel k := by
  have h : Depicted.stem (.chart k) = "gflops_line_k" ++ k.repr := rfl
  rw [h, String.toList_append, Nat.toList_repr]
  rfl

theorem toList_stem_grid (ks : List Nat) :
    (Depicted.stem (.grid ks)).toList = "sddmm_".toList ++ widthLabels ks := by
  have h : Depicted.stem (.grid ks) = "sddmm_" ++ "_".intercalate (ks.map fun k => "k" ++ k.repr) := rfl
  rw [h, String.toList_append, String.toList_intercalate, List.map_map, widthLabels]
  congr 3
  funext k
  rw [Function.comp_apply, String.toList_append, Nat.toList_repr]
  rfl

/-- **The file name of a figure tells what it shows.** -/
theorem Depicted.stem_inj {d e : Depicted} (h : d.stem = e.stem) : d = e := by
  have hlist := congrArg String.toList h
  cases d with
  | chart k =>
    cases e with
    | chart l =>
      rw [toList_stem_chart, toList_stem_chart] at hlist
      rw [widthLabel_inj (List.append_cancel_left hlist)]
    | grid ls =>
      rw [toList_stem_chart, toList_stem_grid] at hlist
      cases (List.cons.inj hlist).1
  | grid ks =>
    cases e with
    | chart l =>
      rw [toList_stem_chart, toList_stem_grid] at hlist
      cases (List.cons.inj hlist).1
    | grid ls =>
      rw [toList_stem_grid, toList_stem_grid] at hlist
      rw [widthLabels_inj (List.append_cancel_left hlist)]

theorem Depicted.head_stem (d : Depicted) : d.stem.toList.head? ≠ some '/' := by
  cases d with
  | chart k => rw [toList_stem_chart]; exact by simp
  | grid ks => rw [toList_stem_grid]; exact by simp

/-! ### Paths -/

/-- A directory goes in front of every name that is no path from the root. -/
theorem exists_join (directory : String) : ∃ before : String, ∀ name : String,
    name.toList.head? ≠ some '/' → FileSystem.join directory name = before ++ name := by
  unfold FileSystem.join
  by_cases hempty : directory.isEmpty = true
  · exact ⟨"", fun name _ => by simp [hempty]⟩
  · by_cases hslash : FileSystem.endsInSlash directory = true
    · exact ⟨directory, fun name h => by simp [hempty, hslash, h]⟩
    · exact ⟨directory ++ "/", fun name h => by simp [hempty, hslash, h]⟩

theorem OutputFormat.extension_inj {f g : OutputFormat} (h : f.extension = g.extension) : f = g := by
  cases f with
  | png => cases g with
    | png => rfl
    | pdf => exact absurd h (by decide)
  | pdf => cases g with
    | png => exact absurd h (by decide)
    | pdf => rfl

/-- **The path of an image tells what it shows and in which format.** -/
theorem imagePath_inj {directory : String} {d e : Depicted} {f g : OutputFormat}
    (h : imagePath directory d.stem f = imagePath directory e.stem g) : d = e ∧ f = g := by
  obtain ⟨before, hjoin⟩ := exists_join directory
  have hhead : ∀ (d : Depicted) (f : OutputFormat),
      (d.stem ++ "." ++ f.extension).toList.head? ≠ some '/' := by
    intro d f
    have hd := d.head_stem
    rw [String.toList_append, String.toList_append, List.append_assoc]
    cases hstem : d.stem.toList with
    | nil => simp
    | cons c cs => simpa [hstem] using hd
  unfold imagePath at h
  rw [hjoin _ (hhead d f), hjoin _ (hhead e g)] at h
  have hnames := congrArg String.toList h
  simp only [String.toList_append, List.append_assoc, List.append_cancel_left_eq] at hnames
  have hlength : ("." : String).toList.length + f.extension.toList.length =
      ("." : String).toList.length + g.extension.toList.length := by
    cases f <;> cases g <;> rfl
  obtain ⟨hstem, hending⟩ := List.append_inj' hnames (by simpa using hlength)
  have hformat := String.toList_inj.1 (List.append_cancel_left hending)
  exact ⟨Depicted.stem_inj (String.toList_inj.1 hstem), OutputFormat.extension_inj hformat⟩

/-! ## What a plot shows -/

/-- the charts of a line plot that starts in a world: one for each width of its report -/
def LinePlot.depicted (plot : LinePlot) (world : World) : List Depicted :=
  match (plot.load.runOn world).1 with
  | .ok table => (table.normalize plot.selection).groups.map fun g => .chart g.k
  | .error _ => []

/-- the grid of a grid plot that starts in a world, if it has a chart -/
def GridPlot.depicted (plot : GridPlot) (world : World) : List Depicted :=
  match (plot.load.runOn world).1 with
  | .ok table =>
    if (table.normalize plot.selection).groups.isEmpty then []
    else [.grid (ascending (plot.inputs.map (·.k)))]
  | .error _ => []

/-- what the figures of a plot show that starts in a world -/
def Plot.depicted : Plot → World → List Depicted
  | line plot => plot.depicted
  | grid plot => plot.depicted

/-- What is in the log already changes nothing in what a plot shows. -/
theorem LinePlot.depicted_log (plot : LinePlot) (world : World) (log : List LogEvent) :
    plot.depicted { world with log } = plot.depicted world := by
  unfold LinePlot.depicted
  rw [(plot.load_ignoresLog.same world log world.log).1]

theorem GridPlot.depicted_log (plot : GridPlot) (world : World) (log : List LogEvent) :
    plot.depicted { world with log } = plot.depicted world := by
  unfold GridPlot.depicted
  rw [(plot.load_ignoresLog.same world log world.log).1]

section Runs

variable {directory : String} {settings : Settings} {world after : World} {report : PlotReport}

/-! ### A plot of either kind begins with an event in the log -/

def Plot.begun (plot : Plot) (world : World) : World :=
  { world with log := world.log ++ [.running plot.description] }

theorem Plot.runOn_run_line (plot : LinePlot) : ((line plot).run directory settings).runOn world =
    (plot.run directory settings).runOn ((line plot).begun world) := by
  unfold run
  rw [Session.runOn_bind, Session.runOn_log]
  rfl

theorem Plot.runOn_run_grid (plot : GridPlot) : ((grid plot).run directory settings).runOn world =
    (plot.run directory settings).runOn ((grid plot).begun world) := by
  unfold run
  rw [Session.runOn_bind, Session.runOn_log]
  rfl

/-! ### The figures that a run reports -/

theorem LinePlot.paths_of_saveChart {g : ChartGroup Float} {paths : List String}
    (h : (saveChart g directory settings).runOn world = (.ok paths, after)) :
    paths = Depicted.paths directory (.chart g.k) := by
  unfold saveChart at h
  obtain ⟨-, logged, -, hsave⟩ := Session.runOn_bind_eq_ok h
  exact saveFigure_paths hsave

theorem LinePlot.figures_of_run {plot : LinePlot}
    (h : (plot.run directory settings).runOn world = (.ok report, after)) :
    report.figures = (plot.depicted world).flatMap (Depicted.paths directory) := by
  unfold LinePlot.run at h
  obtain ⟨table, loaded, hload, h⟩ := Session.runOn_bind_eq_ok h
  obtain ⟨-, logged, -, h⟩ := Session.runOn_bind_eq_ok h
  have hdepicted : plot.depicted world =
      (table.normalize plot.selection).groups.map fun g => .chart g.k := by
    unfold LinePlot.depicted
    rw [hload]
  rw [hdepicted, List.flatMap_map]
  split at h
  · next hempty =>
    obtain ⟨-, told, -, h⟩ := Session.runOn_bind_eq_ok h
    rw [Session.runOn_pure] at h
    cases h
    rw [List.isEmpty_iff.1 hempty]
    rfl
  · obtain ⟨figures, drawn, hfigures, h⟩ := Session.runOn_bind_eq_ok h
    obtain ⟨-, told, -, h⟩ := Session.runOn_bind_eq_ok h
    rw [Session.runOn_pure] at h
    cases h
    have hforall : List.Forall₂ (fun g paths => Depicted.paths directory (.chart g.k) = paths)
        (table.normalize plot.selection).groups figures :=
      Session.forall₂_of_runOn_mapM (fun g world paths after hsave => (paths_of_saveChart hsave).symm)
        hfigures
    rw [← List.forall₂_map_left_iff, List.forall₂_eq_eq_eq] at hforall
    rw [← hforall, List.flatMap_def]

theorem GridPlot.figures_of_run {plot : GridPlot}
    (h : (plot.run directory settings).runOn world = (.ok report, after)) :
    report.figures = (plot.depicted world).flatMap (Depicted.paths directory) := by
  unfold GridPlot.run at h
  obtain ⟨table, loaded, hload, h⟩ := Session.runOn_bind_eq_ok h
  obtain ⟨-, logged, -, h⟩ := Session.runOn_bind_eq_ok h
  unfold GridPlot.depicted
  rw [hload]
  dsimp only
  unfold GridPlot.draw GridLayout.ofCount? at h
  by_cases hempty : (table.normalize plot.selection).groups.length = 0
  · rw [if_pos hempty] at h
    obtain ⟨-, told, -, h⟩ := Session.runOn_bind_eq_ok h
    rw [Session.runOn_pure] at h
    cases h
    rw [List.length_eq_zero_iff.1 hempty]
    rfl
  · rw [if_neg hempty] at h
    obtain ⟨-, begun, -, h⟩ := Session.runOn_bind_eq_ok h
    obtain ⟨figures, drawn, hfigures, h⟩ := Session.runOn_bind_eq_ok h
    obtain ⟨-, told, -, h⟩ := Session.runOn_bind_eq_ok h
    rw [Session.runOn_pure] at h
    cases h
    have hne : ¬ (table.normalize plot.selection).groups.isEmpty := by
      simpa using hempty
    rw [if_neg hne, List.flatMap_singleton]
    exact saveFigure_paths hfigures

theorem Plot.figures_of_run {plot : Plot}
    (h : (plot.run directory settings).runOn world = (.ok report, after)) :
    report.figures = (plot.depicted world).flatMap (Depicted.paths directory) := by
  cases plot with
  | line plot =>
    rw [runOn_run_line] at h
    rw [LinePlot.figures_of_run h]
    exact congrArg (List.flatMap _) (plot.depicted_log world _)
  | grid plot =>
    rw [runOn_run_grid] at h
    rw [GridPlot.figures_of_run h]
    exact congrArg (List.flatMap _) (plot.depicted_log world _)

end Runs

/-- A plot shows nothing twice. -/
theorem Plot.nodup_depicted (plot : Plot) (world : World) : (plot.depicted world).Nodup := by
  cases plot with
  | line plot =>
    change (plot.depicted world).Nodup
    unfold LinePlot.depicted
    split
    · next table _ =>
      have hks := (table.pairwise_normalize_groups plot.selection).imp fun h => Nat.ne_of_lt h
      exact List.pairwise_map.2 ((List.pairwise_map.1 hks).imp fun hne h => hne (Depicted.chart.inj h))
    · exact .nil
  | grid plot =>
    change (plot.depicted world).Nodup
    unfold GridPlot.depicted
    split
    · split
      · exact .nil
      · exact List.nodup_singleton _
    · exact .nil

/-! ## What a run shows -/

def Plot.starts (directory : String) (settings : Settings) : List Plot → World → List (Plot × World)
  | [], _ => []
  | plot :: plots, world =>
    (plot, world) :: starts directory settings plots ((plot.run directory settings).runOn world).2

/-- the plots of a run, each with the world that it starts in -/
def plotStarts (plots : List Plot) (directory : String) (settings : Settings) (world : World) :
    List (Plot × World) :=
  Plot.starts directory settings plots ((ensurePlotDirectories [directory]).runOn world).2

section Runs

variable {plots : List Plot} {directory : String} {settings : Settings} {world : World}
  {reports : List (String × PlotReport)}

theorem figures_of_starts {after : World}
    (h : (plots.mapM fun plot => do
        let report ← Session.wrap (.plot plot.name) (plot.run directory settings)
        return (plot.name, report) : Session (List (String × PlotReport))).runOn world =
      (.ok reports, after)) :
    reports.flatMap (·.2.figures) =
      ((Plot.starts directory settings plots world).flatMap fun start =>
        start.1.depicted start.2).flatMap (Depicted.paths directory) := by
  induction plots generalizing world reports with
  | nil =>
    rw [List.mapM_nil, Session.runOn_pure] at h
    cases h
    rfl
  | cons plot plots ih =>
    rw [List.mapM_cons] at h
    obtain ⟨named, between, hplot, hrest⟩ := Session.runOn_bind_eq_ok h
    obtain ⟨others, hothers, rfl⟩ := Session.runOn_map_eq_ok hrest
    obtain ⟨report, hreport, rfl⟩ := Session.runOn_map_eq_ok hplot
    have hrun := Session.runOn_wrap_eq_ok hreport
    unfold Plot.starts
    rw [hrun, List.flatMap_cons, List.flatMap_cons, List.flatMap_append, ih hothers,
      Plot.figures_of_run hrun]

/-- **The reported figures are the images of what the plots show**, in the order of the plots. -/
theorem figures_of_runPlots (h : ((runPlots plots directory settings).runOn world).1 = .ok reports) :
    reports.flatMap (·.2.figures) =
      ((plotStarts plots directory settings world).flatMap fun start =>
        start.1.depicted start.2).flatMap (Depicted.paths directory) := by
  obtain ⟨after, hrun⟩ : ∃ after,
      (runPlots plots directory settings).runOn world = (.ok reports, after) := ⟨_, Prod.ext h rfl⟩
  unfold runPlots at hrun
  obtain ⟨made, created, hcreated, hplots⟩ := Session.runOn_bind_eq_ok hrun
  unfold plotStarts
  rw [hcreated]
  exact figures_of_starts hplots

theorem Depicted.nodup_paths (directory : String) (d : Depicted) : (d.paths directory).Nodup := by
  refine List.Nodup.map (fun f g h => (imagePath_inj h).2) ?_
  cases d <;> simp [formats]

theorem Depicted.disjoint_paths (directory : String) {d e : Depicted} (h : d ≠ e) :
    List.Disjoint (d.paths directory) (e.paths directory) := by
  intro path hd he
  obtain ⟨f, -, rfl⟩ := List.mem_map.1 hd
  obtain ⟨g, -, hpath⟩ := List.mem_map.1 he
  exact h (imagePath_inj hpath).1.symm

theorem Depicted.paths_ne_nil (directory : String) (d : Depicted) : d.paths directory ≠ [] := by
  cases d <;> exact List.cons_ne_nil _ _

/-- The images of what is shown are distinct if and only if nothing is shown twice. -/
theorem Depicted.nodup_flatMap_paths_iff (directory : String) (ds : List Depicted) :
    (ds.flatMap (Depicted.paths directory)).Nodup ↔ ds.Nodup := by
  rw [List.nodup_flatMap]
  constructor
  · rintro ⟨-, hdisjoint⟩
    refine hdisjoint.imp fun {d e} h => ?_
    rintro rfl
    obtain ⟨path, hpath⟩ := List.exists_mem_of_ne_nil _ (paths_ne_nil directory d)
    exact h hpath hpath
  · exact fun h => ⟨fun d _ => d.nodup_paths directory, h.imp fun hne => disjoint_paths directory hne⟩

/-- **A run that succeeds reports distinct figures** if and only if no two of its plots show the
same: no width is charted by two line plots, and no two grids have the same widths. -/
theorem runPlots_nodup_iff (h : ((runPlots plots directory settings).runOn world).1 = .ok reports) :
    (reports.flatMap (·.2.figures)).Nodup ↔
      (plotStarts plots directory settings world).Pairwise fun p q =>
        List.Disjoint (p.1.depicted p.2) (q.1.depicted q.2) := by
  rw [figures_of_runPlots h, Depicted.nodup_flatMap_paths_iff, List.nodup_flatMap]
  exact and_iff_right fun start _ => start.1.nodup_depicted start.2

end Runs

def reportAt (k : Nat) : Content :=
  .bytes s!"file: a.mtx\n| 1 | 1 | 100 | 1 | {k} | 1 | | | | |\n".toUTF8.data.toList

/-- a world with the reports of two machines and a table -/
def twoMachines (k l : Nat) : World :=
  ⟨⟨[(["a100.md"], .file (reportAt k)), (["h100.md"], .file (reportAt l)),
    (["a100.csv"], .file (.bytes "file,NNZ,BSMR\na.mtx,150000,1\n".toUTF8.data.toList))], []⟩, []⟩

def twoLinePlots : List Plot := [.line ⟨"a100.md", .zcx⟩, .line ⟨"h100.md", .zcx⟩]

/-- Two reports with different widths and a grid: all figures are distinct. -/
theorem runPlots_nodup_iff_twoMachines :
    let plots := twoLinePlots ++ [.grid ⟨[⟨32, "a100.csv"⟩], .bsmr, none, none⟩]
    let reports := [("line", ⟨["out/gflops_line_k32.png"], []⟩),
      ("line", ⟨["out/gflops_line_k64.png"], []⟩),
      ("grid", ⟨["out/sddmm_k32.png", "out/sddmm_k32.pdf"], []⟩)]
    ((runPlots plots "out" .default).runOn (twoMachines 32 64)).1 = .ok reports ∧
      ((reports.flatMap (·.2.figures)).Nodup ↔
        (plotStarts plots "out" .default (twoMachines 32 64)).Pairwise fun p q =>
          List.Disjoint (p.1.depicted p.2) (q.1.depicted q.2)) := by
  intro plots reports
  have hrun : ((runPlots plots "out" .default).runOn (twoMachines 32 64)).1 = .ok reports := by
    decide +kernel
  exact ⟨hrun, runPlots_nodup_iff hrun⟩

/-- Two reports with the same width: the run succeeds, and the second figure takes the place of the
first. -/
theorem not_nodup_twoLinePlots :
    ¬ ∀ reports, ((runPlots twoLinePlots "out" .default).runOn (twoMachines 32 32)).1 = .ok reports →
      (reports.flatMap (·.2.figures)).Nodup := by
  have hrun : ((runPlots twoLinePlots "out" .default).runOn (twoMachines 32 32)).1 =
      .ok [("line", ⟨["out/gflops_line_k32.png"], []⟩),
        ("line", ⟨["out/gflops_line_k32.png"], []⟩)] := by decide +kernel
  exact fun h => absurd (h _ hrun) (by decide)

end KernelCharts
