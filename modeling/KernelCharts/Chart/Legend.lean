import KernelCharts.Chart.Canvas
import KernelCharts.Chart.Glyph

/-!
# Legends

The legend of a figure lists the kernels that are drawn in it. An entry shows a piece of the kernel's line
with its glyph, and the kernel's name.

* `Legend` — the kernels drawn in a figure, each once, in the order of their first drawing;
* `Legend.register` — the legend after one more series is drawn;
* `LegendStyle` — the measures of the entries of one legend;
* `LegendStyle.width`, `LegendStyle.marks` — one entry.
-/

namespace KernelCharts

/-! ## The kernels -/

/-- the kernels of a legend, in the order of their first drawing -/
structure Legend where
  entries : List Kernel
deriving DecidableEq, Repr

namespace Legend

def empty : Legend := ⟨[]⟩

instance : EmptyCollection Legend := ⟨empty⟩

/-- the kernel has an entry -/
instance : Membership Kernel Legend := ⟨fun legend kernel => kernel ∈ legend.entries⟩

instance (legend : Legend) (kernel : Kernel) : Decidable (kernel ∈ legend) :=
  inferInstanceAs (Decidable (kernel ∈ legend.entries))

/-- the legend with an entry for the kernel, which stays where it is if it is there already -/
def register (legend : Legend) (kernel : Kernel) : Legend :=
  if kernel ∈ legend then legend else ⟨legend.entries ++ [kernel]⟩

end Legend

/-! ## Entries -/

/-- the measures of the entries of one legend, in pixels -/
structure LegendStyle where
  alpha : Float
  fontSize : Nat
  swatch : Int
  gap : Int
  markerSize : Int
  lineWidth : Nat
deriving DecidableEq

namespace LegendStyle

/-- the measures on a surface, for a transparency and a font size -/
def ofCanvas (α : Type) [Scalar α] (canvas : Canvas) (alpha : Float) (fontSize : Nat) :
    LegendStyle :=
  { alpha, fontSize
    swatch := canvas.pt (18.0 : α)
    gap := canvas.pt (6.0 : α)
    markerSize := canvas.pt (3.0 : α)
    lineWidth := canvas.pt (1.0 : α) }

def width (style : LegendStyle) (kernel : Kernel) : Int :=
  style.swatch + style.gap + textWidth style.fontSize kernel.name

/-- an entry with its left edge at `x`, centred on `y` -/
def marks (style : LegendStyle) (kernel : Kernel) (x y : Int) : List Mark :=
  let ink : Ink := ⟨kernel.style.color, style.alpha⟩
  [.path [⟨x, y⟩, ⟨x + style.swatch, y⟩] ink style.lineWidth] ++
    kernel.style.marker.marks ⟨x + style.swatch.tdiv 2, y⟩ style.markerSize ink ++
    [.label ⟨kernel.name, style.fontSize, .left, .middle, 0⟩ ⟨x + style.swatch + style.gap, y⟩]

end LegendStyle

end KernelCharts
