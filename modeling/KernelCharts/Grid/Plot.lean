import KernelCharts.Delimited.Extract
import KernelCharts.Grid.Figure
import KernelCharts.Plot.Basic

/-!
# The grid plot

All widths in one figure, each from a table of its own.

* `GridPlot` — the tables with their widths, and what is selected from them;
* `GridPlot.suffix` — the widths, as part of the file name;
* `GridPlot.load` — the rows of all tables;
* `GridPlot.draw`, `GridPlot.run` — reading the tables and writing the figure.
-/

namespace KernelCharts

/-- a table that was measured at one width -/
structure GridInput where
  k : Nat
  path : String
deriving DecidableEq, Repr

/-- all widths in one figure -/
structure GridPlot where
  inputs : List GridInput
  reference : Kernel
  window : Option Nat
  nnzRange : Option (Nat × Nat)
deriving DecidableEq, Repr

def GridInput.ofValue? (value : Value) : Option GridInput := do
  match ← value.fields? ["k", "path"] with
  | [some k, some path] => return ⟨← k.nat? widthLimit, ← path.text?⟩
  | _ => none

namespace GridPlot

/-- the reference kernel if none is named -/
def defaultReference : Kernel := .bsmr

/-- how many neighbouring rows are averaged if nothing is said -/
def defaultWindow : Nat := 5

/-- the bounds of the number of nonzeros if nothing is said -/
def defaultRange : Nat × Nat := (100000, 2000000)

def ofValue? (value : Value) : Option GridPlot := do
  match ← value.fields? ["inputs", "reference", "window", "nnz_range"] with
  | [inputs, reference, window, nnzRange] =>
    return {
      inputs := ← (← (← inputs).list?).mapM GridInput.ofValue?
      reference := ← Value.getD? reference defaultReference Value.kernel?
      window := ← Value.getD? window (some defaultWindow) (·.optional? (·.nat? Number.limit64))
      nnzRange := ← Value.getD? nnzRange (some defaultRange) (·.optional? (·.range? Number.limit64)) }
  | _ => none

def selection (plot : GridPlot) : Selection := ⟨plot.reference, plot.nnzRange, plot.window⟩

/-- the widths of the inputs, each once and ascending: `k32_k64` for 64 and 32 -/
def suffix (plot : GridPlot) : String :=
  "_".intercalate ((ascending (plot.inputs.map (·.k))).map fun k => s!"k{k}")

/-- the table so far, with the rows of one more input. An input whose header is of no use is left
out. -/
def loadInput (table : Table Float) (input : GridInput) : Session (Table Float) := do
  match ← Session.extractFile (Delimited.extract (some input.k)) input.path with
  | .ok extraction => return table.merge extraction.table
  | .error e =>
    if e.isFatal then throw (.readResults input.path e)
    Session.log [.ignoredInput input.path e]
    return table

def load (plot : GridPlot) : Session (Table Float) := plot.inputs.foldlM loadInput .empty

def figure (groups : List (ChartGroup Float)) (layout : GridLayout) : Figure :=
  let legend := Grid.legendOf groups
  ⟨Grid.size layout legend, fun canvas => .ok (Grid.drawing groups layout legend canvas)⟩

/-- the figure for some charts is written to a directory, if there is a chart -/
def draw (normalized : Normalized Float) (stem directory : String) (settings : Settings) :
    Session PlotReport :=
  match GridLayout.ofCount? normalized.groups.length with
  | none => do
    Session.log [.emptyGrid]
    return ⟨[], normalized.skipped⟩
  | some layout => do
    Session.log [.layingOut layout]
    let figures ← saveFigure (figure normalized.groups layout) directory stem [.png, .pdf]
      settings.rasterDpi
    Session.log [.wroteGrid layout.panels]
    return ⟨figures, normalized.skipped⟩

/-- the tables are read, and one figure for all widths written to a directory -/
def run (plot : GridPlot) (directory : String) (settings : Settings) : Session PlotReport := do
  let table ← plot.load
  Session.log (normalizeEvents table plot.selection)
  draw (table.normalize plot.selection) ("sddmm_" ++ plot.suffix) directory settings

def description (plot : GridPlot) : String :=
  let inputs := plot.inputs.map fun input =>
    Text.described "GridInput" [("k", input.k.repr), ("path", Text.quotedPath input.path)]
  let range := plot.nnzRange.map fun (least, greatest) => "(" ++ least.repr ++ ", " ++ greatest.repr ++ ")"
  Text.described "GridPlot" [
    ("inputs", Text.bracketed inputs),
    ("reference", plot.reference.symbol),
    ("window", Text.describedOption (plot.window.map Nat.repr)),
    ("nnz_range", Text.describedOption range)]

end GridPlot

end KernelCharts
