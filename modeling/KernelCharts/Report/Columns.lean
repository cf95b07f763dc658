import KernelCharts.Extraction.Cell

/-!
# Rows of a report

* `splitRow` — the cells of a row between its bars;
* `Columns` — where a row has its values, by position or by the names of a header;
* `Columns.readRow` — the observation of a row.
-/

namespace KernelCharts.Report

/-- the cells of a row, without the bars at its ends, percent signs and blanks -/
def splitRow (line : List Char) : List (List Char) :=
  let inner := Text.dropLast '|' (Text.dropFirst '|' (Text.trim line))
  (Text.fields '|' inner).map fun cell => Text.trim (cell.filter (· ≠ '%'))

/-- where a row has its values -/
structure Columns where
  nnz : Nat
  k : Nat
  throughput : List (Kernel × Nat)
  /-- how many cells a row needs -/
  minCells : Nat
deriving DecidableEq, Repr

namespace Columns

/-- the columns of a report without a header that names them:
`| M | N | NNZ | sparsity | K | zcx | cuSDDMM | cuSparse | RoDe | ASpT |` -/
def positional : Columns :=
  { nnz := 2
    k := 4
    throughput := [(.zcx, 5), (.cuSddmm, 6), (.cuSparse, 7), (.roDe, 8), (.aspt, 9)]
    minCells := 10 }

/-- the columns that a header names; it has to name the number of nonzeros, the width and a
kernel -/
def ofHeader? (header : List (List Char)) : Option Columns := do
  let nnz ← column? ["NNZ"] header
  let k ← column? ["K"] header
  let throughput := kernelColumns header
  if throughput.isEmpty then none
  else
    let last := (throughput.map (·.2)).foldl max (max nnz k)
    some ⟨nnz, k, throughput, last + 1⟩

def kernels (columns : Columns) : List Kernel := columns.throughput.map (·.1)

/-- the observation of a row; the first cell that cannot be read decides about a bad row -/
def readRow (columns : Columns) (source : String) (cells : List (List Char)) :
    Except RowError (Observation Float) := do
  if cells.length < columns.minCells then
    throw (.tooShort cells.length columns.minCells)
  let cell (index : Nat) : List Char := cells.getD index []
  let nnz ← readCount nnzLimit "NNZ" (cell columns.nnz)
  let k ← readCount widthLimit "K" (cell columns.k)
  readThroughputs (columns.throughput.map fun (kernel, index) => (kernel, cell index))
    { source, nnz, k := some k, throughput := ∅ }

end Columns

end KernelCharts.Report
