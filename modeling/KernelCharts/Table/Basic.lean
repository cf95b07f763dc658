import KernelCharts.Observation

/-!
# Tables of observations

* `Table` — rows that share one set of kernels;
* `Table.ofKernels`, `Table.ofRows`, `Table.extend`, `Table.push`, `Table.derive`, `Table.merge` —
  the operations that build tables. Each of them conforms the rows it takes in to the kernels of
  its result.
-/

namespace KernelCharts

/-- rows that share one set of kernels -/
structure Table (α : Type) where
  kernels : List Kernel
  rows : List (Observation α)
deriving DecidableEq, BEq, Repr

namespace Table

variable {α : Type}

/-- the table without rows of the given kernels, whatever their order and number -/
def ofKernels (kernels : List Kernel) : Table α := ⟨Kernel.catalogued kernels, []⟩

def empty : Table α := ofKernels []

instance : Inhabited (Table α) := ⟨empty⟩

def extend (t : Table α) (rows : List (Observation α)) : Table α :=
  { t with rows := t.rows ++ rows.map (·.conform t.kernels) }

@[simp] theorem kernels_extend (t : Table α) (rows : List (Observation α)) :
    (t.extend rows).kernels = t.kernels := rfl

@[simp] theorem rows_extend (t : Table α) (rows : List (Observation α)) :
    (t.extend rows).rows = t.rows ++ rows.map (·.conform t.kernels) := rfl

def push (t : Table α) (row : Observation α) : Table α := t.extend [row]

/-- the table of some rows, with every kernel that one of them lists -/
def ofRows (rows : List (Observation α)) : Table α :=
  (ofKernels (rows.flatMap (·.throughput.keys))).extend rows

/-- other rows under the same kernels -/
def derive (t : Table α) (rows : List (Observation α)) : Table α :=
  (ofKernels t.kernels).extend rows

/-- the rows of one table followed by the rows of another, with the kernels of both -/
def merge (s t : Table α) : Table α :=
  (ofKernels (s.kernels ++ t.kernels)).extend (s.rows ++ t.rows)

end Table

end KernelCharts
