import KernelCharts.Chart.Frame
import KernelCharts.Chart.Layout
import KernelCharts.Chart.Legend
import KernelCharts.Chart.Ticks
import KernelCharts.Grid.Points

/-!
# The grid figure

All widths in one figure: a panel for each, two in a row, below a shared legend.

* `legendBand`, `legendPlaces` — the room and the places of the legend's entries;
* `xAxis`, `highest` — the axes of a panel;
* `panelFrame`, `panelMarks` — a panel;
* `drawing` — all marks of the figure.
-/

namespace KernelCharts.Grid

def alpha : Float := 0.7

/-- how many intervals the ticks of a panel may have between them -/
def xTicks : Nat := 10

/-- the legend entries in a row -/
def legendColumns : Nat := 8

def legendRows (legend : Legend) : Nat :=
  max ((legend.entries.length + legendColumns - 1) / legendColumns) 1

variable {α : Type} [Scalar α]

/-! ## Sizes -/

def legendRowHeight : α := 0.35

def legendHeight (legend : Legend) : α := legendRowHeight * Scalar.ofNat (legendRows legend)

/-- the width and the height of the figure, in inches: eight by four for a panel -/
def size (layout : GridLayout) (legend : Legend) : α × α :=
  (8.0 * Scalar.ofNat layout.cols, 4.0 * Scalar.ofNat layout.rows + legendHeight legend)

/-! ## The legend -/

/-- the left edges of entries that follow each other with a spacing, from `x` on -/
def leftEdges (spacing : Int) (x : Int) : List Int → List Int
  | [] => []
  | width :: widths => x :: leftEdges spacing (x + width + spacing) widths

/-- the left edges of the entries of a row, centred in an area, or from its left edge on when they
do not fit -/
def rowEdges (area spacing : Int) (widths : List Int) : List Int :=
  let total := widths.foldr (· + ·) 0 + spacing * ((widths.length : Int) - 1)
  leftEdges spacing ((max (area - total) 0).tdiv 2) widths

/-- the pieces of `n` elements of a list, the last one possibly shorter -/
def chunks {β : Type} (n : Nat) (xs : List β) : List (List β) :=
  (List.range ((xs.length + n - 1) / n)).map fun i => (xs.drop (i * n)).take n

/-- the entries of a legend with their left edges and centre lines, for the widths of their texts -/
def legendPlaces (area spacing rowHeight : Int) (width : Kernel → Int) (legend : Legend) :
    List (Kernel × Pixel) :=
  (chunks legendColumns legend.entries).zipIdx.flatMap fun (entries, row) =>
    let y := row * rowHeight + rowHeight.tdiv 2
    (entries.zip (rowEdges area spacing (entries.map width))).map fun (kernel, x) => (kernel, ⟨x, y⟩)

/-- the band above the panels, in pixels -/
def legendBand (α : Type) [Scalar α] (legend : Legend) (canvas : Canvas) : Nat :=
  canvas.inch (legendHeight legend : α)

/-- the entries of the legend, centred in rows -/
def legendMarks (α : Type) [Scalar α] (area : Region) (legend : Legend) (canvas : Canvas) :
    List Mark :=
  let style := LegendStyle.ofCanvas α canvas alpha (canvas.pt (11.0 : α))
  let spacing : Int := canvas.pt (16.0 : α)
  let rowHeight : Int := canvas.pt (legendRowHeight * 72.0 : α)
  (legendPlaces (area.right - area.left) spacing rowHeight style.width legend).flatMap
    fun (kernel, place) => style.marks kernel (area.left + place.x) (area.top + place.y)

/-! ## Panels -/

/-- the least and the greatest number of nonzeros of a panel -/
def xExtremes (g : ChartGroup α) : α × α := (extremes? g.nnz).getD (0.0, 1.0)

/-- the horizontal axis of a panel: a fiftieth longer than its points on each side -/
def xAxis (g : ChartGroup α) : TickedAxis α :=
  let (lo, hi) := xExtremes g
  let pad := if lo < hi then (hi - lo) * 0.02 else 1.0
  .ofTicks (lo - pad) (hi + pad) (niceTicks lo hi xTicks false)

def tickLabels (g : ChartGroup α) : List String := (xAxis g).ticks.map Scalar.wholeText

def highest (g : ChartGroup α) : α := headroom ((drawn g).flatMap fun (_, points) => points.map (·.2))

def panelFrame (g : ChartGroup α) (cell : GridCell) (canvas : Canvas) (region : Region) : Frame α :=
  { region
    margin := canvas.pt (6.0 : α)
    caption := "K = " ++ toString g.k
    captionSize := canvas.pt (12.0 : α)
    labelHeight := canvas.pt (if cell.titledBelow then 34.0 else 20.0 : α)
    labelWidth := canvas.pt (if cell.titledLeft then 50.0 else 38.0 : α)
    axis := xAxis g
    top := highest g
    titleBelow := if cell.titledBelow then some "NNZ" else none
    titleLeft := if cell.titledLeft then some "GFLOPS" else none
    titleSize := canvas.pt (10.0 : α)
    tickLabels := tickLabels g
    tickSize := canvas.pt (9.0 : α)
    tickRotation := 0 }

/-- the line of one kernel, followed by a glyph for every point -/
def seriesMarks (frame : Frame α) (canvas : Canvas) (kernel : Kernel) (points : List (α × α)) :
    List Mark :=
  let ink : Ink := ⟨kernel.style.color, alpha⟩
  let markerSize := canvas.pt (1.5 : α)
  .path (points.map frame.pixel) ink (canvas.pt (1.0 : α)) ::
    frame.glyphs (fun center => kernel.style.marker.marks center markerSize ink) points

def panelMarks (g : ChartGroup α) (cell : GridCell) (canvas : Canvas) (region : Region) :
    List Mark :=
  let frame := panelFrame g cell canvas region
  frame.marks ++ (drawn g).flatMap fun (kernel, points) => seriesMarks frame canvas kernel points

/-! ## The figure -/

/-- the marks of the figure: paper, legend, and the panels in the order of their groups -/
def drawing (groups : List (ChartGroup α)) (layout : GridLayout) (legend : Legend)
    (canvas : Canvas) : List Mark :=
  let region := Region.ofSize (canvas.inches (size layout legend : α × α))
  let (band, body) := region.splitTop (legendBand α legend canvas)
  let panels := body.splitEvenly layout.rows layout.cols
  [.rect region.corner ⟨region.right, region.bottom⟩ Color.white.solid true] ++
    legendMarks α band legend canvas ++
    layout.cells.flatMap fun cell =>
      match groups[cell.index]?, panels[cell.index]? with
      | some g, some panel => panelMarks g cell canvas panel
      | _, _ => []

end KernelCharts.Grid
