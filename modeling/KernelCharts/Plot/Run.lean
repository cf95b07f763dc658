import KernelCharts.Grid.Plot
import KernelCharts.Line.Plot

/-!
# Running plots

* `Plot` — a plot of either kind;
* `runPlots` — some plots, in order, up to the first that fails;
* `summary` — what is said about a plot in the end.
-/

namespace KernelCharts

inductive Plot where
  | line (plot : LinePlot)
  | grid (plot : GridPlot)
deriving DecidableEq, Repr

namespace Plot

def name : Plot → String
  | line _ => "line"
  | grid _ => "grid"

def description : Plot → String
  | line plot => plot.description
  | grid plot => plot.description

def run (plot : Plot) (directory : String) (settings : Settings) : Session PlotReport := do
  Session.log [.running plot.description]
  match plot with
  | line plot => plot.run directory settings
  | grid plot => plot.run directory settings

/-- the plot of a document, told by its entry `type`, which may stand anywhere -/
def ofValue? : Value → Option Plot
  | .mapping entries => do
    let kind ← (← (← Value.field? entries "type")).text?
    let others := Value.mapping (entries.filter (·.1 != "type"))
    if kind == "LinePlot" then (LinePlot.ofValue? others).map line
    else if kind == "GridPlot" then (GridPlot.ofValue? others).map grid
    else none
  | _ => none

end Plot

/-- the plots are run in order, with images going to a directory; the first failure ends the run -/
def runPlots (plots : List Plot) (directory : String) (settings : Settings) :
    Session (List (String × PlotReport)) := do
  ensurePlotDirectories [directory]
  plots.mapM fun plot => do
    let report ← Session.wrap (.plot plot.name) (plot.run directory settings)
    return (plot.name, report)

/-! ## Summaries -/

/-- a text in bold type, where the terminal has colors -/
def bold (colors : Bool) (text : String) : String :=
  if colors then "\x1b[1m" ++ text ++ "\x1b[0m" else text

/-- a text in yellow, where the terminal has colors -/
def yellow (colors : Bool) (text : String) : String :=
  if colors then "\x1b[33m" ++ text ++ "\x1b[0m" else text

def skippedLine (colors : Bool) (group : SkippedGroup) : String :=
  let k := group.k
  let rows := group.rows
  let window := group.window
  "  " ++ yellow colors "skipped" ++ s!" K={k}: {rows} rows, window {window}"

/-- what is said about a plot: its figures, the skipped widths, and whether nothing was drawn -/
def summary (name : String) (report : PlotReport) (colors : Bool) : List String :=
  let count := report.figures.length
  [bold colors ("[" ++ name ++ "]") ++ s!" {count} figure(s) written"] ++
    report.figures.map ("  " ++ ·) ++
    report.skipped.map (skippedLine colors) ++
    if report.figures.isEmpty then ["  No valid data to plot"] else []

end KernelCharts
