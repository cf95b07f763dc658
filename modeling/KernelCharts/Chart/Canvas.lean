import KernelCharts.Number.Scalar

/-!
# Surfaces

Figures are measured in inches and points; a surface has pixels.

* `OutputFormat` — the kinds of image a figure is written as;
* `Canvas` — the pixel density of a surface, with `Canvas.pt` and `Canvas.inches` converting sizes.
-/

namespace KernelCharts

inductive OutputFormat where
  | png
  | pdf
deriving DecidableEq, Repr

def OutputFormat.extension : OutputFormat → String
  | png => "png"
  | pdf => "pdf"

def OutputFormat.name : OutputFormat → String
  | png => "PNG"
  | pdf => "PDF"

/-- the pixel density of a surface -/
structure Canvas where
  dpi : Nat
deriving DecidableEq, Repr

namespace Canvas

/-- vector images have one pixel per point -/
def vectorDpi : Nat := 72

/-- the surface of an image whose raster resolution is `dpi` -/
def ofFormat (format : OutputFormat) (dpi : Nat) : Canvas :=
  match format with
  | .png => ⟨dpi⟩
  | .pdf => ⟨vectorDpi⟩

variable {α : Type} [Scalar α]

/-- the pixels of a length in points, at least one -/
def pt (canvas : Canvas) (points : α) : Nat :=
  Scalar.toNat32 (Scalar.max (Scalar.round (points * Scalar.ofNat canvas.dpi / 72.0)) 1.0)

def inch (canvas : Canvas) (length : α) : Nat :=
  Scalar.toNat32 (Scalar.round (length * Scalar.ofNat canvas.dpi))

def inches (canvas : Canvas) (size : α × α) : Nat × Nat :=
  (canvas.inch size.1, canvas.inch size.2)

end Canvas

end KernelCharts
