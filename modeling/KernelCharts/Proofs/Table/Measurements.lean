import KernelCharts.Proofs.Table.Built
import Mathlib.Data.List.Forall2

/-!
# Measurements under other kernels

Operations on tables bring rows under other kernels.  Nothing measured is lost as long as the new
kernels include those that a row lists.

* `Observation.SameMeasurements` — two rows agree in all but the kernels that they list as not
  measured;
* `Observation.sameMeasurements_conform` — conforming a row to kernels that include its own;
* `Table.forall₂_ofRows`, `Table.forall₂_merge` — the rows of a table made of rows, and of two
  tables.
-/

namespace KernelCharts

variable {α : Type}

/-- The rows have the same matrix, number of nonzeros, width and measured throughputs. -/
structure Observation.SameMeasurements (row row' : Observation α) : Prop where
  source : row'.source = row.source
  nnz : row'.nnz = row.nnz
  k : row'.k = row.k
  gflops : ∀ kernel, row'.gflops kernel = row.gflops kernel

namespace Observation

theorem SameMeasurements.trans {row row' row'' : Observation α} (h : row.SameMeasurements row')
    (h' : row'.SameMeasurements row'') : row.SameMeasurements row'' where
  source := h'.source.trans h.source
  nnz := h'.nnz.trans h.nnz
  k := h'.k.trans h.k
  gflops := fun kernel => (h'.gflops kernel).trans (h.gflops kernel)

/-- A kernel that a row does not list is not measured. -/
theorem gflops_eq_none {row : Observation α} {kernel : Kernel} (h : kernel ∉ row.throughput.keys) :
    row.gflops kernel = none := by
  rw [KernelMap.mem_keys, Option.not_isSome_iff_eq_none] at h
  rw [gflops, h]
  rfl

theorem sameMeasurements_conform {kernels : List Kernel} {row : Observation α}
    (h : ∀ kernel ∈ row.throughput.keys, kernel ∈ kernels) :
    row.SameMeasurements (row.conform kernels) := by
  refine ⟨rfl, rfl, rfl, fun kernel => ?_⟩
  rw [gflops_conform]
  split
  · rfl
  · next hk => exact (gflops_eq_none fun hmem => hk (h kernel hmem)).symm

theorem Conforms.mem_keys {kernels : List Kernel} {row : Observation α} (h : row.Conforms kernels)
    {kernel : Kernel} : kernel ∈ row.throughput.keys ↔ kernel ∈ kernels :=
  KernelMap.mem_keys.trans (h kernel)

end Observation

theorem forall₂_comp {β γ δ : Type} {R : β → γ → Prop} {S : γ → δ → Prop} {T : β → δ → Prop}
    (h : ∀ b c d, R b c → S c d → T b d) {l : List β} {m : List γ} {n : List δ}
    (hlm : List.Forall₂ R l m) (hmn : List.Forall₂ S m n) : List.Forall₂ T l n := by
  induction hlm generalizing n with
  | nil =>
    cases hmn
    exact .nil
  | cons hR _ ih =>
    cases hmn with
    | cons hS hmn => exact .cons (h _ _ _ hR hS) (ih hmn)

theorem forall₂_sameMeasurements_trans {rows rows' rows'' : List (Observation α)}
    (h : List.Forall₂ Observation.SameMeasurements rows rows')
    (h' : List.Forall₂ Observation.SameMeasurements rows' rows'') :
    List.Forall₂ Observation.SameMeasurements rows rows'' :=
  forall₂_comp (fun _ _ _ hrow hrow' => hrow.trans hrow') h h'

namespace Table

theorem forall₂_map_conform {kernels : List Kernel} {rows : List (Observation α)}
    (h : ∀ row ∈ rows, ∀ kernel ∈ row.throughput.keys, kernel ∈ kernels) :
    List.Forall₂ Observation.SameMeasurements rows (rows.map (·.conform kernels)) := by
  rw [List.forall₂_map_right_iff, List.forall₂_same]
  exact fun row hrow => Observation.sameMeasurements_conform (h row hrow)

/-- The table of some rows keeps what they measured. -/
theorem forall₂_ofRows (rows : List (Observation α)) :
    List.Forall₂ Observation.SameMeasurements rows (ofRows rows).rows := by
  refine forall₂_map_conform fun row hrow kernel hkernel => ?_
  rw [ofKernels, Kernel.mem_catalogued, List.mem_flatMap]
  exact ⟨row, hrow, hkernel⟩

/-- Merging keeps the rows of both tables, in order, and what they measured. -/
theorem forall₂_merge {s t : Table α} (hs : s.WellFormed) (ht : t.WellFormed) :
    List.Forall₂ Observation.SameMeasurements (s.rows ++ t.rows) (s.merge t).rows := by
  refine forall₂_map_conform fun row hrow kernel hkernel => ?_
  rw [ofKernels, Kernel.mem_catalogued, List.mem_append]
  rcases List.mem_append.1 hrow with hrow | hrow
  · exact .inl ((hs.conforms row hrow).mem_keys.1 hkernel)
  · exact .inr ((ht.conforms row hrow).mem_keys.1 hkernel)

end Table

end KernelCharts
