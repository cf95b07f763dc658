import KernelCharts.Extraction.Basic
import KernelCharts.Extraction.Cell

/-!
# Columns of a table of records

* `Columns` — where a record has its values, by the names of the header;
* `Columns.ofHeader` — the columns that a header names;
* `Columns.readRecord` — the observation of a record.
-/

namespace KernelCharts.Delimited

/-- where a record has its values -/
structure Columns where
  source : Nat
  nnz : Nat
  k : Option Nat
  throughput : List (Kernel × Nat)
deriving DecidableEq, Repr

def Columns.description (columns : Columns) : String :=
  Text.described "Columns" [
    ("source", columns.source.repr),
    ("nnz", columns.nnz.repr),
    ("k", Text.describedOption (columns.k.map Nat.repr)),
    ("throughput", Text.bracketed (columns.throughput.map fun (kernel, index) =>
      "(" ++ kernel.symbol ++ ", " ++ index.repr ++ ")"))]

def sourceNames : List String := ["file", "source_id", "matrix"]

namespace Columns

/-- the columns that a header names; it has to name the matrix and the number of nonzeros -/
def ofHeader (header : List (List Char)) : Except ExtractError Columns :=
  match column? sourceNames header with
  | none => .error (.missingColumn sourceNames)
  | some source =>
    match column? ["NNZ"] header with
    | none => .error (.missingColumn ["NNZ"])
    | some nnz => .ok ⟨source, nnz, column? ["K"] header, kernelColumns header⟩

def kernels (columns : Columns) : List Kernel := columns.throughput.map (·.1)

/-- the width of a record: the label of the table, or else the cell of its column, which may be
empty -/
def readWidth (label : Option Nat) (cell : Option (List Char)) : Except RowError (Option Nat) :=
  match label, cell with
  | some k, _ => .ok (some k)
  | none, none | none, some [] => .ok none
  | none, some cell => (readCount widthLimit "K" cell).map some

/-- the observation of a record; the first cell that cannot be read decides about a bad record. A
record that is shorter than the header has empty cells in the missing columns. -/
def readRecord (columns : Columns) (label : Option Nat) (cells : List (List Char)) :
    Except RowError (Observation Float) := do
  let cell (index : Nat) : List Char := cells.getD index []
  let source := cell columns.source
  if source.isEmpty then throw (.invalid "file" [])
  let nnz ← readCount nnzLimit "NNZ" (cell columns.nnz)
  let k ← readWidth label (columns.k.map cell)
  readThroughputs (columns.throughput.map fun (kernel, index) => (kernel, cell index))
    { source := String.ofList source, nnz, k, throughput := ∅ }

end Columns

end KernelCharts.Delimited
