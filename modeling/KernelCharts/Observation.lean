import KernelCharts.Kernel.Map

/-!
# Observations

* `Observation` — one benchmark row: a matrix at one embedding width, with the throughput of its
  kernels;
* `Observation.conform` — the row with exactly the kernels of a table.
-/

namespace KernelCharts

/-- one benchmark row: a matrix, its number of nonzeros, the embedding width `k` it was run at and
the throughput of the kernels; `some none` stands for a kernel that was listed and not measured -/
structure Observation (α : Type) where
  source : String
  nnz : Nat
  k : Option Nat
  throughput : KernelMap (Option α)
deriving DecidableEq, BEq, Repr

namespace Observation

variable {α : Type}

/-- the row with the result of one kernel set -/
def record (row : Observation α) (kernel : Kernel) (gflops : Option α) : Observation α :=
  { row with throughput := row.throughput.insert kernel gflops }

def gflops (row : Observation α) (kernel : Kernel) : Option α := (row.throughput.get? kernel).join

/-- what identifies a row: a matrix appears once for each width -/
def key (row : Observation α) : String × Option Nat := (row.source, row.k)

/-- the row with exactly the given kernels: the others are dropped, and the missing ones listed as
not measured -/
def conform (kernels : List Kernel) (row : Observation α) : Observation α :=
  { row with throughput := .restrict kernels row.gflops }

@[simp] theorem source_conform (kernels : List Kernel) (row : Observation α) :
    (row.conform kernels).source = row.source := rfl

@[simp] theorem nnz_conform (kernels : List Kernel) (row : Observation α) :
    (row.conform kernels).nnz = row.nnz := rfl

@[simp] theorem k_conform (kernels : List Kernel) (row : Observation α) :
    (row.conform kernels).k = row.k := rfl

@[simp] theorem gflops_conform (kernels : List Kernel) (row : Observation α) (kernel : Kernel) :
    (row.conform kernels).gflops kernel = if kernel ∈ kernels then row.gflops kernel else none := by
  simp only [gflops, conform, KernelMap.get?_restrict]
  split <;> rfl

end Observation

end KernelCharts
