import KernelCharts.Number.Scalar

/-!
# Segments

A line chart has one category for each row. A kernel that was not measured in a row has no point
there, and its line is broken.

* `runs` — the maximal runs of measured values, with the indices of their categories;
* `segments` — the same with the indices as numbers of the chart.
-/

namespace KernelCharts.Line

variable {α : Type}

/-- the maximal runs of measured values from category `index` on -/
def runsFrom : Nat → List (Option α) → List (List (Nat × α))
  | _, [] => []
  | index, none :: rest => runsFrom (index + 1) rest
  | index, some y :: rest =>
    match rest, runsFrom (index + 1) rest with
    | some _ :: _, run :: later => ((index, y) :: run) :: later
    | _, later => [(index, y)] :: later

/-- the maximal runs of measured values -/
def runs (values : List (Option α)) : List (List (Nat × α)) := runsFrom 0 values

/-- the maximal runs of measured values as points of the chart -/
def segments [Scalar α] (values : List (Option α)) : List (List (α × α)) :=
  (runs values).map fun run => run.map fun (index, y) => (Scalar.ofNat index, y)

end KernelCharts.Line
