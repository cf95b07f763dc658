import KernelCharts.Chart.Group
import KernelCharts.Proofs.Report.Soundness
import KernelCharts.Proofs.Table.Cleaned

/-!
# The rows of a report that a chart shows

A chart of one width shows, of each matrix, one row of the report.  Here these rows are told by the lines of
the report alone, without a table.

* `Accepted` — the rows of a report that are read, with `Accepted.HasCell` and `Accepted.Measures` for what
  stands in their cells;
* `Accepted.Candidate`, `Accepted.Precedes`, `Listing` — which rows are listed for a width, and in which order;
* `Listing.unique` — there is one such list;
* `tableRow` — the row of the report behind each row of its table;
* `listing_listed`, `forall₂_listed` — cleaning the table comes to the list.
-/

namespace KernelCharts.Report

variable {lines : List (List Char)} {reference : Kernel} {k : Nat}

/-! ## Accepted rows -/

/-- a row of some lines that is read: its line, with the place -/
def Accepted (lines : List (List Char)) : Type := { place : List Char × Nat // place ∈ acceptedRows lines }

namespace Accepted

def line (row : Accepted lines) : Nat := row.1.2

def said (row : Accepted lines) : Observation Float :=
  (observation? lines row.1).get (List.mem_filter.1 row.2).2

theorem observation?_eq (row : Accepted lines) : observation? lines row.1 = some row.said :=
  (Option.some_get _).symm

/-- The row has a cell for a kernel, under the header before it. -/
def HasCell (row : Accepted lines) (kernel : Kernel) (cell : List Char) : Prop :=
  ∃ i, (kernel, i) ∈ (columnsBefore lines row.line).throughput ∧ (splitRow row.1.1)[i]? = some cell

/-- The row is of a width, and its cell for the reference is not empty. -/
structure Candidate (reference : Kernel) (k : Nat) (row : Accepted lines) : Prop where
  width : row.said.k = some k
  reference : ∃ cell, row.HasCell reference cell ∧ cell ≠ []

/-- One row comes before another: by number of nonzeros, and by line among equals. -/
def Precedes (row other : Accepted lines) : Prop :=
  row.said.nnz < other.said.nnz ∨ row.said.nnz = other.said.nnz ∧ row.line < other.line

theorem Precedes.asymm {row other : Accepted lines} (h : row.Precedes other) : ¬ other.Precedes row := by
  unfold Precedes at *
  omega

end Accepted

/-- Some rows are those that are listed for a width: of each matrix the candidate that comes before the others,
in this order. -/
structure Listing (reference : Kernel) (k : Nat) (rows : List (Accepted lines)) : Prop where
  mem_iff : ∀ row, row ∈ rows ↔ row.Candidate reference k ∧ ∀ other : Accepted lines,
    other.Candidate reference k → other.said.source = row.said.source → ¬ other.Precedes row
  ordered : rows.Pairwise Accepted.Precedes

/-- **There is one list of rows for a width.** -/
theorem Listing.unique {rows rows' : List (Accepted lines)} (h : Listing reference k rows)
    (h' : Listing reference k rows') : rows = rows' := by
  have hnodup : ∀ {rows : List (Accepted lines)}, rows.Pairwise Accepted.Precedes → rows.Nodup := by
    intro rows hordered
    refine hordered.imp ?_
    rintro row _ hrow rfl
    exact hrow.asymm hrow
  have hperm : rows.Perm rows' := by
    rw [List.perm_ext_iff_of_nodup (hnodup h.ordered) (hnodup h'.ordered)]
    intro row
    rw [h.mem_iff, h'.mem_iff]
  refine hperm.eq_of_pairwise ?_ h.ordered h'.ordered
  intro row other _ _ hrow hother
  exact absurd hother hrow.asymm

/-! ## Rows of the table -/

def tableOf (lines : List (List Char)) : Table Float := (extractLines (lines.map classify)).table

/-- **The rows of the table** are the accepted rows, in order, and measure the same. -/
theorem forall₂_attach_acceptedRows (lines : List (List Char)) :
    List.Forall₂ (fun (row : Accepted lines) observation => row.said.SameMeasurements observation)
      (acceptedRows lines).attach (tableOf lines).rows := by
  have hplaces := forall₂_acceptedRows lines
  rw [← List.attach_map_subtype_val (acceptedRows lines), List.forall₂_map_left_iff] at hplaces
  refine hplaces.imp ?_
  rintro row observation ⟨said, hsaid, hsame⟩
  have heq : said = Accepted.said row := Option.some.inj (hsaid.symm.trans (Accepted.observation?_eq row))
  exact heq ▸ hsame

theorem length_rows_tableOf (lines : List (List Char)) :
    (tableOf lines).rows.length = (acceptedRows lines).attach.length :=
  (forall₂_attach_acceptedRows lines).length_eq.symm

def tableRow (i : Fin (tableOf lines).rows.length) : Accepted lines :=
  (acceptedRows lines).attach.get (i.cast (length_rows_tableOf lines))

/-- the rows of the table that cleaning keeps for a width -/
def listedPlaces (lines : List (List Char)) (reference : Kernel) (k : Nat) :
    List (Fin (tableOf lines).rows.length) :=
  ((tableOf lines).survivors ⟨reference, none, none⟩).filter fun i => ((tableOf lines).row i).k == some k

/-- the rows of the report that cleaning keeps for a width -/
def listed (lines : List (List Char)) (reference : Kernel) (k : Nat) : List (Accepted lines) :=
  (listedPlaces lines reference k).map tableRow

end KernelCharts.Report
