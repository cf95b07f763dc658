import KernelCharts.Table.Clean

/-!
# Tables that are built

Tables are built by their own operations only, and each of these brings the rows it takes in under
the kernels of its result.

* `Observation.Conforms` — a row lists exactly some kernels; conforming it to them changes nothing
  (`Observation.conform_eq_self`);
* `Table.Built` — the tables that the operations reach;
* `Table.WellFormed` — the kernels are catalogued and every row lists exactly these; every table
  that is built is well-formed (`Table.Built.wellFormed`).
-/

namespace KernelCharts

/-! ## Catalogued kernels -/

theorem Kernel.catalogued_catalogued (kernels : List Kernel) :
    Kernel.catalogued (Kernel.catalogued kernels) = Kernel.catalogued kernels := by
  refine List.filter_congr fun kernel _ => ?_
  simp only [List.contains_eq_mem, Kernel.mem_catalogued]

variable {α : Type}

/-! ## Rows under some kernels -/

/-- The row lists exactly the given kernels. -/
def Observation.Conforms (kernels : List Kernel) (row : Observation α) : Prop :=
  ∀ kernel, (row.throughput.get? kernel).isSome ↔ kernel ∈ kernels

theorem Observation.conforms_conform (kernels : List Kernel) (row : Observation α) :
    (row.conform kernels).Conforms kernels := by
  intro kernel
  simp only [Observation.conform, KernelMap.get?_restrict]
  split <;> simp_all

/-- A row that lists exactly the given kernels is left alone, entries that are listed and not
measured included. -/
theorem Observation.conform_eq_self {kernels : List Kernel} {row : Observation α}
    (h : row.Conforms kernels) : row.conform kernels = row := by
  have hmap : KernelMap.restrict kernels row.gflops = row.throughput := by
    refine KernelMap.ext fun kernel => ?_
    rw [KernelMap.get?_restrict]
    have hk := h kernel
    cases hget : row.throughput.get? kernel with
    | none => simp_all
    | some value => simp_all [Observation.gflops]
  unfold Observation.conform
  rw [hmap]

theorem Observation.map_conform_eq_self {kernels : List Kernel} {rows : List (Observation α)}
    (h : ∀ row ∈ rows, row.Conforms kernels) : rows.map (·.conform kernels) = rows := by
  have hid : rows.map (·.conform kernels) = rows.map id :=
    List.map_congr_left fun row hrow => Observation.conform_eq_self (h row hrow)
  rw [hid, List.map_id]

namespace Table

/-! ## Well-formed tables -/

/-- The kernels are catalogued, and every row lists exactly these. -/
structure WellFormed (t : Table α) : Prop where
  catalogued : Kernel.catalogued t.kernels = t.kernels
  conforms : ∀ row ∈ t.rows, row.Conforms t.kernels

theorem wellFormed_ofKernels (kernels : List Kernel) : (ofKernels kernels : Table α).WellFormed where
  catalogued := Kernel.catalogued_catalogued kernels
  conforms := by simp [ofKernels]

theorem WellFormed.extend {t : Table α} (h : t.WellFormed) (rows : List (Observation α)) :
    (t.extend rows).WellFormed where
  catalogued := h.catalogued
  conforms := by
    intro row hrow
    rw [rows_extend, List.mem_append, List.mem_map] at hrow
    rcases hrow with hrow | ⟨row, -, rfl⟩
    · exact h.conforms row hrow
    · exact Observation.conforms_conform t.kernels row

theorem wellFormed_derive (t : Table α) (rows : List (Observation α)) :
    (t.derive rows).WellFormed :=
  (wellFormed_ofKernels t.kernels).extend rows

/-- Rows that are under the kernels of a well-formed table already are derived unchanged. -/
theorem WellFormed.derive_eq {t : Table α} (h : t.WellFormed) {rows : List (Observation α)}
    (hrows : ∀ row ∈ rows, row.Conforms t.kernels) : t.derive rows = ⟨t.kernels, rows⟩ := by
  unfold Table.derive Table.extend Table.ofKernels
  simp only [h.catalogued, List.nil_append, Observation.map_conform_eq_self hrows]

/-! ## Reachable tables -/

/-- The tables that the operations of tables reach. -/
inductive Built : Table α → Prop
  | empty : Built .empty
  | ofKernels (kernels : List Kernel) : Built (.ofKernels kernels)
  | ofRows (rows : List (Observation α)) : Built (.ofRows rows)
  | push {t : Table α} (row : Observation α) : Built t → Built (t.push row)
  | derive {t : Table α} (rows : List (Observation α)) : Built t → Built (t.derive rows)
  | merge {t u : Table α} : Built t → Built u → Built (t.merge u)
  | clean {t : Table α} (s : Selection) : Built t → Built (t.clean s)

/-- **Every table that is built is well-formed.** -/
theorem Built.wellFormed {t : Table α} (h : t.Built) : t.WellFormed := by
  induction h with
  | empty => exact wellFormed_ofKernels []
  | ofKernels kernels => exact wellFormed_ofKernels kernels
  | ofRows rows => exact (wellFormed_ofKernels _).extend rows
  | push row _ ih => exact ih.extend [row]
  | derive rows _ _ => exact wellFormed_derive _ rows
  | merge _ _ _ _ => exact (wellFormed_ofKernels _).extend _
  | clean s _ _ => exact wellFormed_derive _ _

end Table

end KernelCharts
