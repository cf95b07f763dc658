import KernelCharts.Line.Figure
import KernelCharts.Plot.Basic
import KernelCharts.Report.Extract

/-!
# The line plot

One figure for every width of a report.

* `LinePlot` — the report and the reference kernel;
* `LinePlot.run` — reading the report and writing the figures.
-/

namespace KernelCharts

/-- one figure for every width of a report -/
structure LinePlot where
  file : String
  reference : Kernel
deriving DecidableEq, Repr

namespace LinePlot

/-- the reference kernel if none is named -/
def defaultReference : Kernel := .zcx

def ofValue? (value : Value) : Option LinePlot := do
  match ← value.fields? ["file", "reference"] with
  | [file, reference] =>
    return {
      file := ← (← file).text?
      reference := ← Value.getD? reference defaultReference Value.kernel? }
  | _ => none

def selection (plot : LinePlot) : Selection := ⟨plot.reference, none, none⟩

def figure (g : ChartGroup Float) : Figure := ⟨Line.size, fun canvas => .ok (Line.drawing g canvas)⟩

/-- the file name of the figure of a width, without its extension -/
def stem (k : Nat) : String := s!"gflops_line_k{k}"

def load (plot : LinePlot) : Session (Table Float) := do
  match ← Session.extractFile Report.extract plot.file with
  | .error e => throw (.readReport plot.file e)
  | .ok extraction => return extraction.table

def saveChart (g : ChartGroup Float) (directory : String) (settings : Settings) :
    Session (List String) := do
  Session.log [.categories g.k g.nnz.length]
  saveFigure (figure g) directory (stem g.k) [.png] settings.rasterDpi

/-- the report is read, and a figure for each of its widths written to a directory -/
def run (plot : LinePlot) (directory : String) (settings : Settings) : Session PlotReport := do
  let table ← plot.load
  let normalized := table.normalize plot.selection
  Session.log (normalizeEvents table plot.selection)
  if normalized.groups.isEmpty then
    Session.log [.emptyReport plot.file]
    return ⟨[], normalized.skipped⟩
  let figures ← normalized.groups.mapM fun g => saveChart g directory settings
  Session.log [.wroteLinePlots figures.flatten.length]
  return ⟨figures.flatten, normalized.skipped⟩

def description (plot : LinePlot) : String :=
  Text.described "LinePlot"
    [("file", Text.quotedPath plot.file), ("reference", plot.reference.symbol)]

end LinePlot

end KernelCharts
