import KernelCharts.Proofs.Grid.Load
import KernelCharts.Proofs.Line.Load
import KernelCharts.Proofs.Plot.Figures
import KernelCharts.Proofs.Session.Images

/-!
# What a run does to the files

* `LinePlot.charts`, `GridPlot.charts` — the charts of a plot that starts in a world;
* `Plot.images` — the images of these charts, and `Plot.run_writes`: a plot writes exactly these;
* `Plot.run_of_charts_eq_nil`, `Plot.run_of_unreadable` — the plots that touch nothing;
* `Plot.effects_of_mapM`, `Plot.runOn_mapM_of_failure` — plots in a row, up to the first that fails;
* `effects_of_runPlots`, `effects_of_failure` — what a run writes that succeeds, and one that fails;
* `RunEffects`, `runPlots_effects` — the effects of a run on the files, put together.
-/

namespace KernelCharts

variable {directory : String} {settings : Settings} {world : World}

theorem exists_ok_of_not_error {ε β : Type} {x : Except ε β} (h : ¬ ∃ error, x = .error error) :
    ∃ b, x = .ok b := by
  cases x with
  | ok b => exact ⟨b, rfl⟩
  | error error => exact absurd ⟨error, rfl⟩ h

/-! ## Line plots -/

namespace LinePlot

/-- the charts of a plot that starts in a world -/
def charts (plot : LinePlot) (world : World) : List (ChartGroup Float) :=
  match (plot.load.runOn world).1 with
  | .ok table => (table.normalize plot.selection).groups
  | .error _ => []

theorem charts_of_load {plot : LinePlot} {table : Table Float} (h : (plot.load.runOn world).1 = .ok table) :
    plot.charts world = (table.normalize plot.selection).groups := by
  rw [charts, h]

theorem charts_log (plot : LinePlot) (world : World) (log : List LogEvent) :
    plot.charts { world with log } = plot.charts world := by
  unfold charts
  rw [(plot.load_ignoresLog.same world log world.log).1]

theorem depicted_eq (plot : LinePlot) (world : World) :
    plot.depicted world = (plot.charts world).map fun g => .chart g.k := by
  unfold depicted charts
  cases (plot.load.runOn world).1 <;> rfl

/-- The charts have ascending widths. -/
theorem pairwise_charts (plot : LinePlot) (world : World) :
    ((plot.charts world).map (·.k)).Pairwise (· < ·) := by
  unfold charts
  cases (plot.load.runOn world).1 with
  | ok table => exact table.pairwise_normalize_groups plot.selection
  | error failure => exact .nil

def images (plot : LinePlot) (directory : String) (settings : Settings) (world : World) :
    List (String × Content) :=
  (plot.charts world).flatMap fun g =>
    (figure g).images directory (stem g.k) [.png] settings.rasterDpi

theorem saveChart_writes (g : ChartGroup Float) (directory : String) (settings : Settings) (world : World) :
    (saveChart g directory settings).Writes
      ((figure g).images directory (stem g.k) [.png] settings.rasterDpi) world := by
  unfold saveChart
  refine Session.Writes.bind_of_onlyLogs (Session.log_onlyLogs _) ?_
  exact fun _ logged _ => saveFigure_writes (figure g) directory (stem g.k) [.png] _ logged

theorem run_writes (plot : LinePlot) (directory : String) (settings : Settings) (world : World) :
    (plot.run directory settings).Writes (plot.images directory settings world) world := by
  unfold run
  refine Session.Writes.bind_of_onlyLogs plot.load_onlyLogs ?_
  intro table between hload
  have hcharts := charts_of_load (congrArg Prod.fst hload)
  dsimp only
  refine Session.Writes.bind_of_onlyLogs (Session.log_onlyLogs _) ?_
  rintro - logged -
  unfold images
  rw [hcharts]
  split
  · next hempty =>
    rw [List.isEmpty_iff.1 hempty]
    exact Session.Writes.bind_of_onlyLogs (Session.log_onlyLogs _) fun _ after _ => .pure _ after
  · exact (Session.Writes.mapM (fun g => saveChart_writes g directory settings) _ logged).report _ _

/-- **Without a chart** nothing is touched. -/
theorem run_of_charts_eq_nil {plot : LinePlot} (world : World) (hreadable : ¬ plot.Unreadable world.files)
    (hcharts : plot.charts world = []) (directory : String) (settings : Settings) :
    ∃ report log, (plot.run directory settings).runOn world = (.ok report, { world with log }) ∧
      report.figures = [] := by
  obtain ⟨table, htable⟩ := exists_ok_of_not_error (mt exists_load_eq_error_iff.1 hreadable)
  obtain ⟨log, hload⟩ := plot.load_onlyLogs.runOn_of_fst htable
  have hgroups : (table.normalize plot.selection).groups = [] := (charts_of_load htable).symm.trans hcharts
  refine ⟨⟨[], (table.normalize plot.selection).skipped⟩, ?_⟩
  rw [run, Session.runOn_bind, hload]
  dsimp only
  rw [hgroups]
  exact ⟨_, rfl, rfl⟩

/-- **Without a table** nothing is touched, either. -/
theorem run_of_unreadable {plot : LinePlot} (world : World) (h : plot.Unreadable world.files)
    (directory : String) (settings : Settings) :
    ∃ failure log, (plot.run directory settings).runOn world = (.error failure, { world with log }) := by
  obtain ⟨failure, hfailure⟩ := exists_load_eq_error_iff.2 h
  obtain ⟨log, hload⟩ := plot.load_onlyLogs.runOn_of_fst hfailure
  refine ⟨failure, log, ?_⟩
  rw [run, Session.runOn_bind, hload]

end LinePlot

/-! ## Grid plots -/

namespace GridPlot

/-- the charts of a plot that starts in a world -/
def charts (plot : GridPlot) (world : World) : List (ChartGroup Float) :=
  match (plot.load.runOn world).1 with
  | .ok table => (table.normalize plot.selection).groups
  | .error _ => []

theorem charts_of_load {plot : GridPlot} {table : Table Float} (h : (plot.load.runOn world).1 = .ok table) :
    plot.charts world = (table.normalize plot.selection).groups := by
  rw [charts, h]

theorem charts_log (plot : GridPlot) (world : World) (log : List LogEvent) :
    plot.charts { world with log } = plot.charts world := by
  unfold charts
  rw [(plot.load_ignoresLog.same world log world.log).1]

theorem depicted_eq (plot : GridPlot) (world : World) : plot.depicted world =
    if (plot.charts world).isEmpty then [] else [.grid (ascending (plot.inputs.map (·.k)))] := by
  unfold depicted charts
  cases (plot.load.runOn world).1 <;> rfl

def images (plot : GridPlot) (directory : String) (settings : Settings) (world : World) :
    List (String × Content) :=
  match GridLayout.ofCount? (plot.charts world).length with
  | none => []
  | some layout => (figure (plot.charts world) layout).images directory ("sddmm_" ++ plot.suffix)
      [.png, .pdf] settings.rasterDpi

theorem run_writes (plot : GridPlot) (directory : String) (settings : Settings) (world : World) :
    (plot.run directory settings).Writes (plot.images directory settings world) world := by
  unfold run
  refine Session.Writes.bind_of_onlyLogs plot.load_onlyLogs ?_
  intro table between hload
  have hcharts := charts_of_load (congrArg Prod.fst hload)
  refine Session.Writes.bind_of_onlyLogs (Session.log_onlyLogs _) ?_
  rintro - logged -
  unfold images draw
  rw [hcharts]
  cases GridLayout.ofCount? (table.normalize plot.selection).groups.length with
  | none => exact Session.Writes.bind_of_onlyLogs (Session.log_onlyLogs _) fun _ after _ => .pure _ after
  | some layout =>
    refine Session.Writes.bind_of_onlyLogs (Session.log_onlyLogs _) ?_
    exact fun _ begun _ => (saveFigure_writes _ directory _ _ _ begun).report _ _

/-- **Without a chart** nothing is touched. -/
theorem run_of_charts_eq_nil {plot : GridPlot} (world : World)
    (hreadable : ¬ ∃ input ∈ plot.inputs, input.Unreadable world.files)
    (hcharts : plot.charts world = []) (directory : String) (settings : Settings) :
    ∃ report log, (plot.run directory settings).runOn world = (.ok report, { world with log }) ∧
      report.figures = [] := by
  obtain ⟨table, htable⟩ := exists_ok_of_not_error (mt exists_load_eq_error_iff.1 hreadable)
  obtain ⟨log, hload⟩ := plot.load_onlyLogs.runOn_of_fst htable
  have hgroups : (table.normalize plot.selection).groups = [] := (charts_of_load htable).symm.trans hcharts
  refine ⟨⟨[], (table.normalize plot.selection).skipped⟩, ?_⟩
  rw [run, Session.runOn_bind, hload]
  dsimp only
  rw [draw, hgroups]
  exact ⟨_, rfl, rfl⟩

/-- **Without a table** nothing is touched, either. -/
theorem run_of_unreadable {plot : GridPlot} (world : World)
    (h : ∃ input ∈ plot.inputs, input.Unreadable world.files) (directory : String) (settings : Settings) :
    ∃ failure log, (plot.run directory settings).runOn world = (.error failure, { world with log }) := by
  obtain ⟨failure, hfailure⟩ := exists_load_eq_error_iff.2 h
  obtain ⟨log, hload⟩ := plot.load_onlyLogs.runOn_of_fst hfailure
  refine ⟨failure, log, ?_⟩
  rw [run, Session.runOn_bind, hload]

end GridPlot

/-! ## Plots of either kind -/

namespace Plot

/-- the charts of a plot that starts in a world -/
def charts : Plot → World → List (ChartGroup Float)
  | line plot => plot.charts
  | grid plot => plot.charts

def images : Plot → String → Settings → World → List (String × Content)
  | line plot => plot.images
  | grid plot => plot.images

def imagePaths : Plot → String → World → List String
  | line plot, directory, world =>
    (plot.charts world).map fun g => imagePath directory (LinePlot.stem g.k) .png
  | grid plot, directory, world =>
    if (plot.charts world).isEmpty then []
    else [imagePath directory ("sddmm_" ++ plot.suffix) .png, imagePath directory ("sddmm_" ++ plot.suffix) .pdf]

def Unreadable : Plot → FileSystem → Prop
  | line plot, files => plot.Unreadable files
  | grid plot, files => ∃ input ∈ plot.inputs, input.Unreadable files

theorem map_fst_images (plot : Plot) (directory : String) (settings : Settings) (world : World) :
    (plot.images directory settings world).map (·.1) = plot.imagePaths directory world := by
  cases plot with
  | line plot =>
    simp only [images, LinePlot.images, imagePaths, Figure.images, List.map_flatMap, List.map_cons, List.map_nil]
    exact List.map_eq_flatMap.symm
  | grid plot =>
    simp only [images, GridPlot.images, imagePaths, GridLayout.ofCount?]
    cases hcharts : plot.charts world with
    | nil => rfl
    | cons g gs => rfl

/-- **A plot that succeeds** reports the paths of its images. -/
theorem figures_of_run_eq {plot : Plot} {report : PlotReport} {after : World}
    (h : (plot.run directory settings).runOn world = (.ok report, after)) :
    report.figures = plot.imagePaths directory world := by
  rw [Plot.figures_of_run h]
  cases plot with
  | line plot =>
    simp only [depicted, LinePlot.depicted_eq, List.flatMap_map]
    exact List.map_eq_flatMap.symm
  | grid plot =>
    simp only [depicted, GridPlot.depicted_eq, imagePaths]
    split <;> rfl

/-- **A plot writes exactly its images**, as far as it gets. -/
theorem run_writes (plot : Plot) (directory : String) (settings : Settings) (world : World) :
    (plot.run directory settings).Writes (plot.images directory settings world) world := by
  cases plot with
  | line plot =>
    have hwrites := plot.run_writes directory settings ((line plot).begun world)
    rw [LinePlot.images, begun, LinePlot.charts_log] at hwrites
    unfold Session.Writes at hwrites ⊢
    rw [runOn_run_line]
    exact hwrites
  | grid plot =>
    have hwrites := plot.run_writes directory settings ((grid plot).begun world)
    rw [GridPlot.images, begun, GridPlot.charts_log] at hwrites
    unfold Session.Writes at hwrites ⊢
    rw [runOn_run_grid]
    exact hwrites

/-- **A plot without a chart** succeeds without figures, and touches nothing. -/
theorem run_of_charts_eq_nil {plot : Plot} (hreadable : ¬ plot.Unreadable world.files)
    (hcharts : plot.charts world = []) (directory : String) (settings : Settings) :
    ∃ report log, (plot.run directory settings).runOn world = (.ok report, { world with log }) ∧
      report.figures = [] := by
  cases plot with
  | line plot =>
    rw [runOn_run_line]
    exact LinePlot.run_of_charts_eq_nil ((line plot).begun world) hreadable
      ((plot.charts_log world _).trans hcharts) directory settings
  | grid plot =>
    rw [runOn_run_grid]
    exact GridPlot.run_of_charts_eq_nil ((grid plot).begun world) hreadable
      ((plot.charts_log world _).trans hcharts) directory settings

/-- **A plot whose input cannot be read** fails before it touches anything. -/
theorem run_of_unreadable {plot : Plot} (h : plot.Unreadable world.files) (directory : String)
    (settings : Settings) :
    ∃ failure log, (plot.run directory settings).runOn world = (.error failure, { world with log }) := by
  cases plot with
  | line plot =>
    rw [runOn_run_line]
    exact LinePlot.run_of_unreadable ((line plot).begun world) h directory settings
  | grid plot =>
    rw [runOn_run_grid]
    exact GridPlot.run_of_unreadable ((grid plot).begun world) h directory settings

/-! ## Plots in a row -/

def runNamed (directory : String) (settings : Settings) (plot : Plot) : Session (String × PlotReport) := do
  let report ← Session.wrap (.plot plot.name) (plot.run directory settings)
  return (plot.name, report)

theorem runOn_runNamed (directory : String) (settings : Settings) (plot : Plot) (world : World) :
    (runNamed directory settings plot).runOn world =
      ((((plot.run directory settings).runOn world).1.map fun report => (plot.name, report)).mapError
        (.plot plot.name), ((plot.run directory settings).runOn world).2) := by
  unfold runNamed
  rw [Session.runOn_bind, Session.runOn_wrap]
  rcases (plot.run directory settings).runOn world with ⟨cause | report, after⟩ <;> rfl

def imagesFrom (directory : String) (settings : Settings) (starts : List (Plot × World)) :
    List (String × Content) :=
  starts.flatMap fun start => start.1.images directory settings start.2

/-- **Plots in a row that succeed** report the paths of their images, and write these and nothing else. -/
theorem effects_of_mapM {plots : List Plot} {reports : List (String × PlotReport)} {after : World}
    (h : (plots.mapM (runNamed directory settings)).runOn world = (.ok reports, after)) :
    List.Forall₂ (fun start named => named.1 = start.1.name ∧
        named.2.figures = start.1.imagePaths directory start.2) (starts directory settings plots world) reports ∧
      world.files.Overlaid (imagesFrom directory settings (starts directory settings plots world))
        after.files := by
  induction plots generalizing world reports with
  | nil =>
    rw [List.mapM_nil, Session.runOn_pure] at h
    cases h
    exact ⟨.nil, .refl _⟩
  | cons plot plots ih =>
    rw [List.mapM_cons] at h
    obtain ⟨named, between, hplot, hrest⟩ := Session.runOn_bind_eq_ok h
    obtain ⟨others, hothers, rfl⟩ := Session.runOn_map_eq_ok hrest
    obtain ⟨report, hreport, rfl⟩ := Session.runOn_map_eq_ok hplot
    have hrun := Session.runOn_wrap_eq_ok hreport
    obtain ⟨written, -, hoverlaid, hall⟩ := plot.run_writes directory settings world
    obtain ⟨hreports, hlater⟩ := ih hothers
    have hbetween : ((plot.run directory settings).runOn world).2 = between := congrArg Prod.snd hrun
    rw [hall report (congrArg Prod.fst hrun), hbetween] at hoverlaid
    unfold starts
    rw [hbetween]
    exact ⟨.cons ⟨rfl, figures_of_run_eq hrun⟩ hreports, hoverlaid.trans hlater⟩

/-- **The first plot that fails** ends the run in the world that it leaves behind. -/
theorem runOn_mapM_of_failure {before later : List Plot} {plot : Plot} {reports : List (String × PlotReport)}
    {between after : World} {cause : Failure}
    (hbefore : (before.mapM (runNamed directory settings)).runOn world = (.ok reports, between))
    (hplot : (plot.run directory settings).runOn between = (.error cause, after)) :
    ((before ++ plot :: later).mapM (runNamed directory settings)).runOn world =
      (.error (.plot plot.name cause), after) := by
  rw [List.mapM_append, Session.runOn_bind, hbefore]
  dsimp only
  rw [List.mapM_cons, Session.runOn_bind, Session.runOn_bind, runOn_runNamed, hplot]
  rfl

theorem exists_failure_of_mapM {plots : List Plot} {failure : Failure} {after : World}
    (h : (plots.mapM (runNamed directory settings)).runOn world = (.error failure, after)) :
    ∃ before plot later reports between cause, plots = before ++ plot :: later ∧
      (before.mapM (runNamed directory settings)).runOn world = (.ok reports, between) ∧
      (plot.run directory settings).runOn between = (.error cause, after) ∧
      failure = .plot plot.name cause := by
  obtain ⟨before, plot, later, reports, between, hplots, hbefore, hplot⟩ := Session.exists_failure_of_runOn_mapM h
  rw [runOn_runNamed] at hplot
  rcases hrun : (plot.run directory settings).runOn between with ⟨cause | report, last⟩
  · rw [hrun] at hplot
    cases hplot
    exact ⟨before, plot, later, reports, between, cause, hplots, hbefore, hrun, rfl⟩
  · rw [hrun] at hplot
    cases hplot

end Plot

/-! ## Runs -/

theorem runPlots_eq (plots : List Plot) (directory : String) (settings : Settings) :
    runPlots plots directory settings = (do
      ensurePlotDirectories [directory]
      plots.mapM (Plot.runNamed directory settings)) := rfl

/-- What a run does to the files: the directory of the images may be created on the way, but no file is
created, changed or removed other than this says. -/
structure RunEffects (plots : List Plot) (directory : String) (settings : Settings) (world : World) : Prop where
  /-- a run that succeeds reports the images of its plots, and writes these and nothing else -/
  success : ∀ reports after, (runPlots plots directory settings).runOn world = (.ok reports, after) →
    List.Forall₂ (fun start named => named.1 = start.1.name ∧
        named.2.figures = start.1.imagePaths directory start.2)
      (plotStarts plots directory settings world) reports ∧
    (Plot.imagesFrom directory settings (plotStarts plots directory settings world)).map (·.1) =
      reports.flatMap (·.2.figures) ∧
    world.files.Overlaid (Plot.imagesFrom directory settings (plotStarts plots directory settings world))
      after.files
  /-- every path that is reported leads to an image -/
  written : ∀ reports after, (runPlots plots directory settings).runOn world = (.ok reports, after) →
    ∀ path ∈ reports.flatMap (·.2.figures), ∃ place, after.files.resolve path = .ok place ∧
      ∃ image ∈ Plot.imagesFrom directory settings (plotStarts plots directory settings world),
        after.files.resolve image.1 = .ok place ∧ after.files.content? place = some image.2
  /-- a file that no path leads to is as it was -/
  untouched : ∀ reports after, (runPlots plots directory settings).runOn world = (.ok reports, after) →
    ∀ place, (∀ path ∈ reports.flatMap (·.2.figures), after.files.resolve path ≠ .ok place) →
      after.files.content? place = world.files.content? place
  /-- the charts of a line plot have ascending widths -/
  ascending : ∀ (plot : LinePlot) (start : World), ((plot.charts start).map (·.k)).Pairwise (· < ·)
  /-- a plot without a chart touches nothing -/
  empty : ∀ (plot : Plot) (start : World), ¬ plot.Unreadable start.files → plot.charts start = [] →
    ∃ report log, (plot.run directory settings).runOn start = (.ok report, { start with log }) ∧
      report.figures = []
  /-- nor does one whose input cannot be read -/
  unreadable : ∀ (plot : Plot) (start : World), plot.Unreadable start.files →
    ∃ failure log, (plot.run directory settings).runOn start = (.error failure, { start with log })
  /-- the first plot that fails ends the run; it may have written some of its own images over those of the
  plots before it -/
  failure : ∀ before plot later reports between cause after, plots = before ++ plot :: later →
    (runPlots before directory settings).runOn world = (.ok reports, between) →
    (plot.run directory settings).runOn between = (.error cause, after) →
      (runPlots plots directory settings).runOn world = (.error (.plot plot.name cause), after) ∧
      ∃ written, written.Sublist (plot.images directory settings between) ∧
        world.files.Overlaid
          (Plot.imagesFrom directory settings (plotStarts before directory settings world) ++ written)
          after.files
  /-- a run that fails does so at the first plot that fails, unless the directory cannot be created -/
  fails : ∀ failure after, (runPlots plots directory settings).runOn world = (.error failure, after) →
    (∃ fault, failure = .createDirectory directory fault ∧ world.files.Overlaid [] after.files) ∨
    ∃ before plot later reports between cause, plots = before ++ plot :: later ∧
      (runPlots before directory settings).runOn world = (.ok reports, between) ∧
      (plot.run directory settings).runOn between = (.error cause, after) ∧
      failure = .plot plot.name cause

section

variable {plots : List Plot} {reports : List (String × PlotReport)} {after : World}

theorem effects_of_runPlots (h : (runPlots plots directory settings).runOn world = (.ok reports, after)) :
    List.Forall₂ (fun start named => named.1 = start.1.name ∧
        named.2.figures = start.1.imagePaths directory start.2)
      (plotStarts plots directory settings world) reports ∧
    world.files.Overlaid (Plot.imagesFrom directory settings (plotStarts plots directory settings world))
      after.files := by
  rw [runPlots_eq] at h
  obtain ⟨made, created, hcreated, hplots⟩ := Session.runOn_bind_eq_ok h
  have hfiles := overlaid_ensurePlotDirectories directory world
  rw [hcreated] at hfiles
  obtain ⟨hreports, hoverlaid⟩ := Plot.effects_of_mapM hplots
  unfold plotStarts
  rw [hcreated]
  exact ⟨hreports, hfiles.trans hoverlaid⟩

theorem map_fst_imagesFrom (h : (runPlots plots directory settings).runOn world = (.ok reports, after)) :
    (Plot.imagesFrom directory settings (plotStarts plots directory settings world)).map (·.1) =
      reports.flatMap (·.2.figures) := by
  have hpaths : ((plotStarts plots directory settings world).map fun start =>
      start.1.imagePaths directory start.2) = reports.map (·.2.figures) := by
    apply map_eq_map_of_forall₂
    exact (effects_of_runPlots h).1.imp fun start named h => h.2.symm
  rw [Plot.imagesFrom, List.map_flatMap]
  simp only [Plot.map_fst_images]
  rw [List.flatMap_def, hpaths, List.flatMap_def]

/-- **A run ends at the first plot that fails**, after what this plot has written. -/
theorem effects_of_failure {before later : List Plot} {plot : Plot} {between : World} {cause : Failure}
    (hbefore : (runPlots before directory settings).runOn world = (.ok reports, between))
    (hplot : (plot.run directory settings).runOn between = (.error cause, after)) :
    (runPlots (before ++ plot :: later) directory settings).runOn world =
        (.error (.plot plot.name cause), after) ∧
      ∃ written, written.Sublist (plot.images directory settings between) ∧
        world.files.Overlaid
          (Plot.imagesFrom directory settings (plotStarts before directory settings world) ++ written)
          after.files := by
  obtain ⟨-, hearlier⟩ := effects_of_runPlots hbefore
  obtain ⟨written, hsublist, hoverlaid, -⟩ := plot.run_writes directory settings between
  rw [hplot] at hoverlaid
  refine ⟨?_, written, hsublist, hearlier.trans hoverlaid⟩
  rw [runPlots_eq] at hbefore ⊢
  obtain ⟨made, created, hcreated, hplots⟩ := Session.runOn_bind_eq_ok hbefore
  rw [Session.runOn_bind, hcreated]
  exact Plot.runOn_mapM_of_failure hplots hplot

/-- **A run that fails** could not create the directory, or has a first plot that fails. -/
theorem exists_failure_of_runPlots {failure : Failure}
    (h : (runPlots plots directory settings).runOn world = (.error failure, after)) :
    (∃ fault, failure = .createDirectory directory fault ∧ world.files.Overlaid [] after.files) ∨
    ∃ before plot later reports between cause, plots = before ++ plot :: later ∧
      (runPlots before directory settings).runOn world = (.ok reports, between) ∧
      (plot.run directory settings).runOn between = (.error cause, after) ∧
      failure = .plot plot.name cause := by
  rw [runPlots_eq, Session.runOn_bind] at h
  rcases hcreate : (ensurePlotDirectories [directory]).runOn world with ⟨fault | made, created⟩
  · have hfiles := overlaid_ensurePlotDirectories directory world
    rw [hcreate] at h hfiles
    cases h
    obtain ⟨fault, hfault⟩ := exists_fault_of_ensurePlotDirectories (congrArg Prod.fst hcreate)
    exact .inl ⟨fault, hfault, hfiles⟩
  · rw [hcreate] at h
    obtain ⟨before, plot, later, reports, between, cause, rfl, hbefore, hplot, rfl⟩ := Plot.exists_failure_of_mapM h
    refine .inr ⟨before, plot, later, reports, between, cause, rfl, ?_, hplot, rfl⟩
    rw [runPlots_eq, Session.runOn_bind, hcreate]
    exact hbefore

end

/-- **The effects of a run**, for all plots, directories and files. -/
theorem runPlots_effects (plots : List Plot) (directory : String) (settings : Settings) (world : World) :
    RunEffects plots directory settings world := by
  constructor
  case success =>
    intro reports after h
    obtain ⟨hreports, hoverlaid⟩ := effects_of_runPlots h
    exact ⟨hreports, map_fst_imagesFrom h, hoverlaid⟩
  case written =>
    intro reports after h path hpath
    rw [← map_fst_imagesFrom h] at hpath
    obtain ⟨image, himage, rfl⟩ := List.mem_map.1 hpath
    exact (effects_of_runPlots h).2.exists_image himage
  case untouched =>
    intro reports after h place hplace
    rw [← map_fst_imagesFrom h, List.forall_mem_map] at hplace
    exact (effects_of_runPlots h).2.content?_eq hplace
  case ascending => exact LinePlot.pairwise_charts
  case empty => exact fun plot start hreadable hcharts => Plot.run_of_charts_eq_nil hreadable hcharts directory settings
  case unreadable => exact fun plot start h => Plot.run_of_unreadable h directory settings
  case failure =>
    rintro before plot later reports between cause after rfl hbefore hplot
    exact effects_of_failure hbefore hplot
  case fails => exact fun failure after h => exists_failure_of_runPlots h

/-- The second of three plots fails: the first figure stays, and the third is not drawn. -/
example :
    let run := (runPlots [.line ⟨"a100.md", .zcx⟩, .line ⟨"missing.md", .zcx⟩, .line ⟨"h100.md", .zcx⟩]
      "out" .default).runOn (twoMachines 32 64)
    run.1 = .error (.plot "line" (.readReport "missing.md" (.io .notFound))) ∧
      run.2.files.content? ["out", "gflops_line_k32.png"] ≠ none ∧
      run.2.files.content? ["out", "gflops_line_k64.png"] = none := by
  decide +kernel

end KernelCharts
