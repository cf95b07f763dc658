import KernelCharts.Number.Numeral
import KernelCharts.Table.Clean
import KernelCharts.Text.Quoted

/-!
# Headers and cells

A header names the columns of a table, and the rows below it have cells in them.

* `column?` — the first column with one of some names;
* `kernelColumns` — the first column of every kernel that is named;
* `repeatedKernels` — the kernels of the further columns;
* `RowError` — why a row is dropped;
* `readCount` — a cell with a positive count;
* `readThroughput` — a cell with a throughput, which is empty when the kernel was not measured.
-/

namespace KernelCharts

/-! ## Headers -/

/-- the first column with one of some names, in any case -/
def column? (names : List String) (header : List (List Char)) : Option Nat :=
  header.findIdx? fun cell => names.any fun name => Text.sameLetters cell name.toList

/-- the columns that name a kernel, with the kernel they name -/
def namedColumns (header : List (List Char)) : List (Kernel × Nat) :=
  header.zipIdx.filterMap fun (cell, index) => (Kernel.ofName? cell).map fun kernel => (kernel, index)

/-- the first column of every kernel that is named, in the order of the columns -/
def kernelColumns (header : List (List Char)) : List (Kernel × Nat) :=
  keepFirst (·.1) (namedColumns header)

/-- the kernels of the columns that repeat an earlier one, in the order of the columns -/
def repeatedKernels (header : List (List Char)) : List Kernel :=
  let kernels := (namedColumns header).map (·.1)
  (kernels.zipIdx.filter fun (kernel, index) => (kernels.take index).contains kernel).map (·.1)

/-! ## Cells -/

inductive RowError where
  /-- the row lacks a column -/
  | tooShort (found expected : Nat)
  /-- the cell of a column cannot be read -/
  | invalid (column : String) (cell : List Char)
deriving DecidableEq, Repr

namespace RowError

def message : RowError → String
  | tooShort found expected => s!"expected at least {expected} cells, found {found}"
  | invalid column cell => s!"invalid {column}: " ++ Text.quoted cell

end RowError

/-- the numbers of nonzeros are below this -/
def nnzLimit : Nat := Number.limit64

/-- the embedding widths are below this -/
def widthLimit : Nat := Number.limit32

/-- a cell with a positive count below a limit -/
def readCount (limit : Nat) (column : String) (cell : List Char) : Except RowError Nat :=
  match Number.count? limit cell with
  | some n => .ok n
  | none => .error (.invalid column cell)

/-- the throughput that a text stands for: a finite number, not negative -/
def throughput? (cell : List Char) : Option Float :=
  ((Number.Numeral.read? cell).map Number.Numeral.toFloat).filter fun x =>
    x.isFinite && decide (0.0 ≤ x)

/-- a cell with a throughput; an empty cell stands for a kernel that was not measured -/
def readThroughput (column : String) (cell : List Char) : Except RowError (Option Float) :=
  if cell.isEmpty then .ok none
  else match throughput? cell with
    | some x => .ok (some x)
    | none => .error (.invalid column cell)

/-- the throughputs of some kernels from their cells, read in order; the first bad cell decides -/
def readThroughputs (cells : List (Kernel × List Char)) (row : Observation Float) :
    Except RowError (Observation Float) :=
  cells.foldlM (fun row (kernel, cell) => do
    return row.record kernel (← readThroughput kernel.name cell)) row

end KernelCharts
