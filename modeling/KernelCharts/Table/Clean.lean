import KernelCharts.Table.Basic

/-!
# Cleaning

A chart compares kernels with one reference kernel, so only rows with a result of the reference are
of use, and a matrix counts once for each width.

* `Selection` — which rows are of use, and how wide the smoothing window is;
* `keepFirst` — the elements of a list with a new key;
* `Table.clean` — the rows of use, by number of nonzeros.
-/

namespace KernelCharts

structure Selection where
  /-- the reference kernel; rows without its result are dropped -/
  reference : Kernel
  /-- the least and the greatest number of nonzeros that are kept -/
  nnzRange : Option (Nat × Nat)
  /-- how many neighbouring rows are averaged; none or zero leaves the rows as they are -/
  window : Option Nat
deriving DecidableEq, Repr

/-- the elements whose key none of their predecessors has -/
def keepFirst {β κ : Type} [BEq κ] (key : β → κ) : List β → List β
  | [] => []
  | x :: xs => x :: (keepFirst key xs).filter fun y => !(key y == key x)

namespace Selection

variable {α : Type}

/-- the row has a width and a result of the reference -/
def complete (s : Selection) (row : Observation α) : Bool :=
  row.k.isSome && (row.gflops s.reference).isSome

/-- the number of nonzeros lies within the bounds, both included -/
def inRange (s : Selection) (row : Observation α) : Bool :=
  match s.nnzRange with
  | none => true
  | some (lo, hi) => lo ≤ row.nnz && row.nnz ≤ hi

end Selection

variable {α : Type}

/-- the complete rows by number of nonzeros, the first of each matrix and width, as far as they lie
within the bounds. Rows with the same number of nonzeros keep their order. A row that is out of
bounds still stands for its matrix and width, so that a later duplicate does not come in for it. -/
def Table.clean (t : Table α) (s : Selection) : Table α :=
  let sorted := t.rows.mergeSort fun a b => a.nnz ≤ b.nnz
  t.derive ((keepFirst Observation.key (sorted.filter s.complete)).filter s.inRange)

end KernelCharts
