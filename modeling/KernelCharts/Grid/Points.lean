import KernelCharts.Chart.Group
import KernelCharts.Chart.Legend

/-!
# Points of the grid

A throughput of zero stands for a run that did not happen.

* `plottedPoints` — the points of a kernel that are drawn;
* `legendOf` — the kernels drawn in some panel, in the order of their first drawing;
* `extremes?` — the least and the greatest number of a list.
-/

namespace KernelCharts.Grid

variable {α : Type} [Scalar α]

/-- the points of a kernel that are drawn: measured and not zero -/
def plottedPoints (g : ChartGroup α) (kernel : Kernel) : List (α × α) :=
  (g.points kernel).filter fun (_, y) => !(y == 0.0)

/-- the kernels of a panel with a point, each with its points, in catalogue order -/
def drawn (g : ChartGroup α) : List (Kernel × List (α × α)) :=
  (g.series.keys.map fun kernel => (kernel, plottedPoints g kernel)).filter
    fun (_, points) => !points.isEmpty

def legendOf (groups : List (ChartGroup α)) : Legend :=
  (groups.flatMap fun g => (drawn g).map (·.1)).foldl Legend.register ∅

/-! ## Extremes -/

/-- the lower and the upper of two numbers; equal numbers keep their order -/
def ordered (x y : α) : α × α := if y < x then (y, x) else (x, y)

/-- the extremes after two more numbers, the lower one first -/
def widen (extremes pair : α × α) : α × α :=
  (if pair.1 < extremes.1 then pair.1 else extremes.1,
    if pair.2 < extremes.2 then extremes.2 else pair.2)

/-- the extremes after the remaining numbers, taken in pairs -/
def extremesFrom (extremes : α × α) : List α → α × α
  | [] => extremes
  | [x] =>
    if x < extremes.1 then (x, extremes.2)
    else if x < extremes.2 then extremes else (extremes.1, x)
  | x :: y :: rest => extremesFrom (widen extremes (ordered x y)) rest

/-- the least and the greatest number of a list -/
def extremes? : List α → Option (α × α)
  | [] => none
  | [x] => some (x, x)
  | x :: y :: rest => some (extremesFrom (ordered x y) rest)

end KernelCharts.Grid
