import KernelCharts.Chart.Frame
import KernelCharts.Chart.Group
import KernelCharts.Chart.Legend
import KernelCharts.Chart.Ticks
import KernelCharts.Line.Segments

/-!
# The line figure

One chart for one width: the rows are categories, labelled with their numbers of nonzeros, and every
kernel is a broken line over them.

* `categoryAxis` — the horizontal axis, with at most `maxTicks` labelled categories;
* `highest` — the upper end of the vertical axis;
* `frame` — the chart around the lines;
* `drawing` — all marks of the figure.
-/

namespace KernelCharts.Line

/-- how many intervals the labelled categories may have between them -/
def maxTicks : Nat := 40

/-- how much the lines cover what lies below -/
def alpha : Float := 0.6

variable {α : Type} [Scalar α]

/-- the width and the height of the figure, in inches -/
def size : α × α := (14.0, 7.0)

def lastCategory (g : ChartGroup α) : α := Scalar.ofNat (g.nnz.length - 1)

/-- the axis of the categories, half a category longer on each side -/
def categoryAxis (g : ChartGroup α) : TickedAxis α :=
  let last := lastCategory g
  .ofTicks (-0.5) (last + 0.5) (niceTicks 0.0 last maxTicks true)

/-- the label of every category: its number of nonzeros -/
def categoryLabels (g : ChartGroup α) : List String := g.nnz.map Scalar.wholeText

/-- the label of the category nearest to a tick; empty where there is none -/
def tickLabel (g : ChartGroup α) (tick : α) : String :=
  let index := Scalar.toInt64 (Scalar.max (Scalar.round tick) 0.0)
  (categoryLabels g)[index.toNat]?.getD ""

/-- the upper end of the vertical axis -/
def highest (g : ChartGroup α) : α :=
  headroom (g.series.entries.flatMap fun (_, values) => values.filterMap id)

/-- the kernels with a point, each with its segments -/
def drawn (g : ChartGroup α) : List (Kernel × List (List (α × α))) :=
  (g.series.entries.map fun (kernel, values) => (kernel, segments values)).filter
    fun (_, runs) => !runs.isEmpty

def frame (g : ChartGroup α) (canvas : Canvas) (region : Region) : Frame α :=
  let longest := ((categoryLabels g).map (·.utf8ByteSize)).max?.getD 1
  let axis := categoryAxis g
  { region
    margin := canvas.pt (10.0 : α)
    caption := "GFLOPS Line Plot at K=" ++ toString g.k
    captionSize := canvas.pt (14.0 : α)
    labelHeight := canvas.pt ((Scalar.ofNat longest : α) * 6.5 + 24.0)
    labelWidth := canvas.pt (48.0 : α)
    axis
    top := highest g
    titleBelow := some "NNZ"
    titleLeft := some "GFLOPS"
    titleSize := canvas.pt (12.0 : α)
    tickLabels := axis.ticks.map (tickLabel g)
    tickSize := canvas.pt (10.0 : α)
    tickRotation := 270 }

/-- the lines of one kernel, followed by a glyph for every point -/
def seriesMarks (frame : Frame α) (canvas : Canvas) (kernel : Kernel)
    (runs : List (List (α × α))) : List Mark :=
  let ink : Ink := ⟨kernel.style.color, alpha⟩
  let markerSize := canvas.pt (3.0 : α)
  runs.map (fun run => .path (run.map frame.pixel) ink (canvas.pt (1.5 : α))) ++
    frame.glyphs (fun center => kernel.style.marker.marks center markerSize ink) runs.flatten

/-- a boxed column of entries in the upper left corner of the plotting area -/
def legendMarks (α : Type) [Scalar α] (area : Region) (kernels : List Kernel) (canvas : Canvas) :
    List Mark :=
  if kernels.isEmpty then []
  else
    let style := LegendStyle.ofCanvas α canvas alpha (canvas.pt (10.0 : α))
    let pad : Int := canvas.pt (6.0 : α)
    let row : Int := canvas.pt (14.0 : α)
    let width := (kernels.map style.width).max?.getD 0
    let first := area.corner + ⟨pad, pad⟩
    let last := first + ⟨width + 2 * pad, row * kernels.length + 2 * pad⟩
    [.rect first last ⟨.white, 0.8⟩ true, .rect first last Color.black.solid false] ++
      (kernels.zipIdx.flatMap fun (kernel, index) =>
        style.marks kernel (first.x + pad) (first.y + pad + row * index + row.tdiv 2))

def drawing (g : ChartGroup α) (canvas : Canvas) : List Mark :=
  let region := Region.ofSize (canvas.inches (size : α × α))
  let frame := frame g canvas region
  let series := drawn g
  [.rect region.corner ⟨region.right, region.bottom⟩ Color.white.solid true] ++
    frame.marks ++
    (series.flatMap fun (kernel, runs) => seriesMarks frame canvas kernel runs) ++
    legendMarks α frame.plottingArea (series.map (·.1)) canvas

end KernelCharts.Line
