import KernelCharts.Chart.Axis
import KernelCharts.Chart.Canvas
import KernelCharts.Chart.Drawing

/-!
# Charts on a surface

A chart has a caption, titles and tick labels around its plotting area, and maps points into it.

* `Frame` — what surrounds the plotting area, with its measures;
* `Frame.plottingArea` — what is left of the chart's region;
* `Frame.marks` — the caption, the titles and the tick labels;
* `Frame.pixel` — the pixel of a point.
-/

namespace KernelCharts

/-- what surrounds the plotting area of a chart; lengths are in pixels -/
structure Frame (α : Type) where
  region : Region
  margin : Nat
  caption : String
  captionSize : Nat
  labelHeight : Nat
  labelWidth : Nat
  axis : TickedAxis α
  /-- the value at the upper end of the vertical axis, which starts at zero -/
  top : α
  titleBelow : Option String
  titleLeft : Option String
  titleSize : Nat
  /-- the labels of the ticks, in their order -/
  tickLabels : List String
  tickSize : Nat
  tickRotation : Nat

namespace Frame

variable {α : Type} [Scalar α]

/-- the room above and below the caption -/
def captionPad (frame : Frame α) : Nat := min (frame.captionSize / 2) 5

/-- the region inside the margin -/
def inner (frame : Frame α) : Region := frame.region.shrink frame.margin

/-- the region of the points: inside the margin, below the caption, and free of labels -/
def plottingArea (frame : Frame α) : Region :=
  let r := frame.inner
  { left := r.left + frame.labelWidth
    top := r.top + 2 * frame.captionPad + frame.captionSize
    right := r.right
    bottom := r.bottom - frame.labelHeight }

/-- the pixel column of a value on the horizontal axis -/
def column (frame : Frame α) (x : α) : Int :=
  let area := frame.plottingArea
  frame.axis.pixel x area.left (area.right - 1)

/-- the pixel row of a value on the vertical axis -/
def row (frame : Frame α) (y : α) : Int :=
  let area := frame.plottingArea
  heightPixel frame.top y (area.bottom - 1) area.top

def pixel (frame : Frame α) (point : α × α) : Pixel := ⟨frame.column point.1, frame.row point.2⟩

/-- the length of a tick: a twentieth of the shorter side, five pixels at most -/
def tickLength (frame : Frame α) : Int :=
  let area := frame.plottingArea
  let side := min (area.right - area.left) (area.bottom - area.top)
  min 5 (Scalar.toInt32 (Scalar.round ((0.05 : α) * Scalar.ofInt side)))

def captionMark (frame : Frame α) : Mark :=
  let r := frame.inner
  .label ⟨frame.caption, frame.captionSize, .center, .top, 0⟩
    ⟨r.left + (r.right - r.left).tdiv 2, r.top + frame.captionPad⟩

/-- the title of the vertical axis, along the left edge -/
def titleLeftMark (frame : Frame α) (title : String) : Mark :=
  let area := frame.plottingArea
  .label ⟨title, frame.titleSize, .center, .top, 270⟩
    ⟨frame.inner.left, area.top + (area.bottom - area.top).tdiv 2⟩

/-- the title of the horizontal axis, along the bottom edge -/
def titleBelowMark (frame : Frame α) (title : String) : Mark :=
  let area := frame.plottingArea
  .label ⟨title, frame.titleSize, .center, .bottom, 0⟩
    ⟨area.left + (area.right - area.left).tdiv 2, area.bottom + frame.labelHeight⟩

/-- the label of a tick, two tick lengths below the plotting area -/
def tickMark (frame : Frame α) (tick : α) (text : String) : Mark :=
  .label ⟨text, frame.tickSize, .center, .top, frame.tickRotation⟩
    ⟨frame.column tick, frame.plottingArea.bottom + 2 * frame.tickLength⟩

/-- all that surrounds the plotting area, in drawing order -/
def marks (frame : Frame α) : List Mark :=
  [frame.captionMark] ++ frame.titleLeft.toList.map frame.titleLeftMark ++
    frame.titleBelow.toList.map frame.titleBelowMark ++
    (frame.axis.ticks.zip frame.tickLabels).map fun (tick, text) => frame.tickMark tick text

end Frame

/-! ## Series -/

def Frame.glyphs {α : Type} [Scalar α] (frame : Frame α) (glyph : Pixel → List Mark)
    (points : List (α × α)) : List Mark :=
  points.flatMap fun point => glyph (frame.pixel point)

end KernelCharts
