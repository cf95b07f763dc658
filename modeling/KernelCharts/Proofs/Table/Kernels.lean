import KernelCharts.Proofs.Table.Built
import Mathlib.Data.List.Forall2

/-!
# The kernels of a table and of its rows

A table lists its kernels once and in catalogue order, and all of its rows list exactly these.  Rows of
any kind are brought under the kernels of a table when it takes them in.

* `Kernel.pairwise_catalogued`, `Kernel.catalogued_congr` — lists of kernels in catalogue order;
* `Observation.Brings` — a row and the same row under some kernels;
* `Table.built_rows_conform` — what all tables that are built have in common, and what they make of the
  rows that they take in.
-/

namespace KernelCharts

/-! ### Catalogue order -/

namespace Kernel

theorem pairwise_catalogued (kernels : List Kernel) :
    (catalogued kernels).Pairwise fun a b => a.rank < b.rank :=
  pairwise_all.filter _

theorem catalogued_congr {kernels kernels' : List Kernel}
    (h : ∀ kernel, kernel ∈ kernels ↔ kernel ∈ kernels') :
    catalogued kernels = catalogued kernels' := by
  apply List.filter_congr
  intro kernel _
  simp only [List.contains_eq_mem, h]

end Kernel

variable {α : Type}

/-! ### Rows under other kernels -/

/-- The second row is the first one under the given kernels: what the first one lists for them stays,
what it lacks of them is listed as not measured, and the rest is gone. -/
structure Observation.Brings (kernels : List Kernel) (row row' : Observation α) : Prop where
  source : row'.source = row.source
  nnz : row'.nnz = row.nnz
  k : row'.k = row.k
  gflops : ∀ kernel ∈ kernels, row'.gflops kernel = row.gflops kernel
  kept : ∀ kernel ∈ kernels, ∀ entry, row.throughput.get? kernel = some entry →
    row'.throughput.get? kernel = some entry
  added : ∀ kernel ∈ kernels, row.throughput.get? kernel = none →
    row'.throughput.get? kernel = some none
  dropped : ∀ kernel, kernel ∉ kernels → row'.throughput.get? kernel = none

theorem Observation.brings_conform (kernels : List Kernel) (row : Observation α) :
    row.Brings kernels (row.conform kernels) := by
  have hget : ∀ kernel, (row.conform kernels).throughput.get? kernel =
      if kernel ∈ kernels then some (row.gflops kernel) else none :=
    KernelMap.get?_restrict kernels row.gflops
  constructor
  case source => rfl
  case nnz => rfl
  case k => rfl
  case gflops =>
    intro kernel hkernel
    rw [gflops_conform, if_pos hkernel]
  case kept =>
    intro kernel hkernel entry hentry
    rw [hget, if_pos hkernel, Observation.gflops, hentry]
    rfl
  case added =>
    intro kernel hkernel hnone
    rw [hget, if_pos hkernel, Observation.gflops, hnone]
    rfl
  case dropped =>
    intro kernel hkernel
    rw [hget, if_neg hkernel]

theorem Observation.Conforms.keys_eq {kernels : List Kernel} {row : Observation α}
    (h : row.Conforms kernels) : row.throughput.keys = Kernel.catalogued kernels := by
  apply List.filter_congr
  intro kernel _
  have hk := h kernel
  rw [Bool.eq_iff_iff, hk, List.contains_iff_mem]

namespace Table

/-! ### Tables -/

variable {t : Table α}

theorem WellFormed.pairwise_kernels (h : t.WellFormed) :
    t.kernels.Pairwise fun a b => a.rank < b.rank := by
  rw [← h.catalogued]
  exact Kernel.pairwise_catalogued t.kernels

theorem WellFormed.keys_eq (h : t.WellFormed) {row : Observation α} (hrow : row ∈ t.rows) :
    row.throughput.keys = t.kernels := by
  have hkeys := (h.conforms row hrow).keys_eq
  rwa [h.catalogued] at hkeys

/-- **What holds of every table that is built**: the kernels ascend, and each row lists exactly these.
A table that takes a row in brings it under its kernels and keeps the rows before it; so does a table
that is derived from it. -/
theorem built_rows_conform (h : t.Built) :
    (t.kernels.Pairwise (fun a b => a.rank < b.rank) ∧
      ∀ row ∈ t.rows, row.throughput.keys = t.kernels) ∧
    (∀ row, (t.push row).kernels = t.kernels ∧
      ∃ row', Observation.Brings t.kernels row row' ∧ (t.push row).rows = t.rows ++ [row']) ∧
    ∀ rows, (t.derive rows).kernels = t.kernels ∧
      List.Forall₂ (Observation.Brings t.kernels) rows (t.derive rows).rows := by
  have hwell := h.wellFormed
  refine ⟨⟨hwell.pairwise_kernels, fun row hrow => hwell.keys_eq hrow⟩, ?_, ?_⟩
  · intro row
    exact ⟨rfl, row.conform t.kernels, row.brings_conform t.kernels, rfl⟩
  · intro rows
    have hrows : (t.derive rows).rows = rows.map (·.conform t.kernels) := by
      have hderive : (t.derive rows).rows = [] ++ rows.map (·.conform (Kernel.catalogued t.kernels)) :=
        rfl
      rw [hderive, hwell.catalogued, List.nil_append]
    refine ⟨hwell.catalogued, ?_⟩
    rw [hrows, List.forall₂_map_right_iff, List.forall₂_same]
    intro row _
    exact row.brings_conform t.kernels

/-- a table of two kernels, given twice and out of order, with a row that lists one of them and a kernel
of another table -/
def foreignKernel : Table Nat :=
  ((ofKernels [.roDe, .bsmr, .roDe]).push
    (((⟨"a.mtx", 10, some 32, ∅⟩ : Observation Nat).record .bsmr (some 1)).record .sputnik (some 2))).merge
      ((ofRows [(⟨"b.mtx", 20, none, ∅⟩ : Observation Nat).record .tcgnn none]).clean
        ⟨.tcgnn, none, none⟩)

theorem built_rows_conform_foreignKernel : foreignKernel.Built ∧
    (foreignKernel.kernels.Pairwise (fun a b => a.rank < b.rank) ∧
      ∀ row ∈ foreignKernel.rows, row.throughput.keys = foreignKernel.kernels) ∧
    (∀ row, (foreignKernel.push row).kernels = foreignKernel.kernels ∧
      ∃ row', Observation.Brings foreignKernel.kernels row row' ∧
        (foreignKernel.push row).rows = foreignKernel.rows ++ [row']) ∧
    ∀ rows, (foreignKernel.derive rows).kernels = foreignKernel.kernels ∧
      List.Forall₂ (Observation.Brings foreignKernel.kernels) rows (foreignKernel.derive rows).rows :=
  have hbuilt : foreignKernel.Built := .merge (.push _ (.ofKernels _)) (.clean _ (.ofRows _))
  ⟨hbuilt, built_rows_conform hbuilt⟩

end Table

end KernelCharts
