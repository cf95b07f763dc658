import KernelCharts.Chart.MovingAverage
import KernelCharts.Table.Clean

/-!
# Chart groups

The rows of one embedding width make up one chart: the numbers of nonzeros in one column, and the
throughput of each kernel in a column of the same length.

* `ChartGroup` — the columns of one chart;
* `ChartGroup.smoothed` — the columns averaged over neighbouring rows;
* `Table.normalize` — the charts of a table, one for each width, and the widths with too few rows.
-/

namespace KernelCharts

/-- the columns of one chart, by number of nonzeros -/
structure ChartGroup (α : Type) where
  k : Nat
  /-- the matrix behind each point; empty in a smoothed group -/
  sources : List String
  nnz : List α
  series : KernelMap (List (Option α))
deriving DecidableEq, BEq, Repr

/-- a width with fewer rows than the smoothing window -/
structure SkippedGroup where
  k : Nat
  rows : Nat
  window : Nat
deriving DecidableEq, Repr

/-- the charts of a table and the widths left out of them -/
structure Normalized (α : Type) where
  groups : List (ChartGroup α)
  skipped : List SkippedGroup
deriving Repr

/-! ## Ascending lists -/

/-- the ascending list with a number added, unless it is there already -/
def insertAscending (n : Nat) : List Nat → List Nat
  | [] => [n]
  | m :: ms => if n < m then n :: m :: ms else if n = m then m :: ms else m :: insertAscending n ms

/-- the numbers of a list, each once and in ascending order -/
def ascending (ns : List Nat) : List Nat := ns.foldr insertAscending []

variable {α : Type} [Scalar α]

namespace ChartGroup

/-! ## Groups -/

def ofRows (k : Nat) (kernels : List Kernel) (rows : List (Observation α)) : ChartGroup α :=
  { k
    sources := rows.map (·.source)
    nnz := rows.map fun row => Scalar.ofNat row.nnz
    series := .restrict kernels fun kernel => rows.map (·.gflops kernel) }

/-- the measured points of a kernel, as numbers of nonzeros and throughputs -/
def points (g : ChartGroup α) (kernel : Kernel) : List (α × α) :=
  match g.series.get? kernel with
  | none => []
  | some values => (g.nnz.zip values).filterMap fun (x, y) => y.map fun y => (x, y)

/-- every column averaged over `w` neighbouring rows -/
def smoothed (g : ChartGroup α) (w : Nat) : ChartGroup α :=
  { k := g.k
    sources := []
    nnz := (movingAverage w (g.nnz.map some)).filterMap id
    series := g.series.mapValues (movingAverage w) }

end ChartGroup

/-! ## The charts of a table -/

/-- what the rows of one width come to: a group, or too few rows for the window -/
def groupOrSkip (window : Option Nat) (k : Nat) (kernels : List Kernel)
    (rows : List (Observation α)) : Except SkippedGroup (ChartGroup α) :=
  let group := ChartGroup.ofRows k kernels rows
  match window with
  | none | some 0 => .ok group
  | some w => if rows.length < w then .error ⟨k, rows.length, w⟩ else .ok (group.smoothed w)

def Table.rowsAt (t : Table α) (k : Nat) : List (Observation α) :=
  t.rows.filter fun row => row.k == some k

def Table.widths (t : Table α) : List Nat := ascending (t.rows.filterMap (·.k))

/-- the outcome of every width of a table that needs no more cleaning, ascending -/
def Table.outcomes (t : Table α) (window : Option Nat) :
    List (Except SkippedGroup (ChartGroup α)) :=
  t.widths.map fun k => groupOrSkip window k t.kernels (t.rowsAt k)

/-- the charts of a table, one for each width of its cleaned rows, ascending -/
def Table.normalize (t : Table α) (s : Selection) : Normalized α :=
  let outcomes := (t.clean s).outcomes s.window
  { groups := outcomes.filterMap fun | .ok group => some group | .error _ => none
    skipped := outcomes.filterMap fun | .ok _ => none | .error skipped => some skipped }

end KernelCharts
