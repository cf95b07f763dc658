import KernelCharts.Proofs.Table.Kernels
import KernelCharts.Proofs.Table.Measurements
import Mathlib.Data.List.Induction

/-!
# Merging tables

Merging brings all rows under the kernels of both tables.  On tables that are built nothing is lost by
it, since a row lists no kernel that its table lacks; so merging several tables comes to taking all of
their rows into one table of all kernels, in whatever steps that is done.

* `Table.merge_congr` — what a merge depends on: the sets of kernels and the measurements of the rows;
* `Table.merge_assoc`, `Table.empty_merge`, `Table.merge_empty`, `Table.ofRows_append` — the laws, one
  by one;
* `Table.foldl_merge_eq` — several tables that are merged one after the other;
* `Table.merge_monoid` — merging is a monoid operation that loses nothing.
-/

namespace KernelCharts

variable {α : Type}

/-! ### Measurements decide -/

namespace Observation

theorem SameMeasurements.refl (row : Observation α) : row.SameMeasurements row :=
  ⟨rfl, rfl, rfl, fun _ => rfl⟩

/-- What a row is under some kernels depends on its measurements only. -/
theorem SameMeasurements.conform_eq {row row' : Observation α} (h : row.SameMeasurements row')
    (kernels : List Kernel) : row'.conform kernels = row.conform kernels := by
  have hgflops : row'.gflops = row.gflops := funext h.gflops
  unfold conform
  rw [hgflops, h.source, h.nnz, h.k]

end Observation

theorem forall₂_sameMeasurements_refl (rows : List (Observation α)) :
    List.Forall₂ Observation.SameMeasurements rows rows :=
  List.forall₂_same.2 fun row _ => .refl row

theorem map_conform_congr {rows rows' : List (Observation α)}
    (h : List.Forall₂ Observation.SameMeasurements rows rows') (kernels : List Kernel) :
    rows'.map (·.conform kernels) = rows.map (·.conform kernels) := by
  induction h with
  | nil => rfl
  | cons hrow _ ih => rw [List.map_cons, List.map_cons, hrow.conform_eq, ih]

namespace Table

/-- a table that takes rows in depends on the set of its kernels and on the measurements of the rows -/
theorem extend_ofKernels_congr {kernels kernels' : List Kernel} {rows rows' : List (Observation α)}
    (hkernels : ∀ kernel, kernel ∈ kernels ↔ kernel ∈ kernels')
    (hrows : List.Forall₂ Observation.SameMeasurements rows rows') :
    (ofKernels kernels').extend rows' = (ofKernels kernels).extend rows := by
  have hcatalogued := Kernel.catalogued_congr hkernels
  simp only [extend, ofKernels, hcatalogued, List.nil_append, map_conform_congr hrows]

/-! ### Kernels and rows of a merged table -/

variable {a b c : Table α}

theorem mem_kernels_merge {kernel : Kernel} :
    kernel ∈ (a.merge b).kernels ↔ kernel ∈ a.kernels ∨ kernel ∈ b.kernels := by
  have hkernels : (a.merge b).kernels = Kernel.catalogued (a.kernels ++ b.kernels) := rfl
  rw [hkernels, Kernel.mem_catalogued, List.mem_append]

theorem mem_kernels_ofRows {rows : List (Observation α)} {kernel : Kernel} :
    kernel ∈ (ofRows rows).kernels ↔ kernel ∈ rows.flatMap (·.throughput.keys) :=
  Kernel.mem_catalogued

/-- **Merging depends on the kernels and the measurements of what is merged.** -/
theorem merge_congr {kernels : List Kernel} {rows : List (Observation α)}
    (hkernels : ∀ kernel, kernel ∈ kernels ↔ kernel ∈ a.kernels ∨ kernel ∈ b.kernels)
    (hrows : List.Forall₂ Observation.SameMeasurements rows (a.rows ++ b.rows)) :
    a.merge b = (ofKernels kernels).extend rows := by
  refine extend_ofKernels_congr ?_ hrows
  intro kernel
  rw [hkernels, List.mem_append]

/-! ### Laws -/

/-- **In whatever order three tables are merged**, all rows get into a table of all kernels. -/
theorem merge_assoc (ha : a.WellFormed) (hb : b.WellFormed) (hc : c.WellFormed) :
    (a.merge b).merge c = a.merge (b.merge c) := by
  have hleft : (a.merge b).merge c =
      (ofKernels (a.kernels ++ b.kernels ++ c.kernels)).extend (a.rows ++ b.rows ++ c.rows) := by
    refine merge_congr ?_ ?_
    · intro kernel
      rw [mem_kernels_merge, List.mem_append, List.mem_append]
    · exact List.rel_append (forall₂_merge ha hb) (forall₂_sameMeasurements_refl c.rows)
  have hright : a.merge (b.merge c) =
      (ofKernels (a.kernels ++ b.kernels ++ c.kernels)).extend (a.rows ++ b.rows ++ c.rows) := by
    refine merge_congr ?_ ?_
    · intro kernel
      rw [mem_kernels_merge, List.mem_append, List.mem_append, or_assoc]
    · rw [List.append_assoc]
      exact List.rel_append (forall₂_sameMeasurements_refl a.rows) (forall₂_merge hb hc)
  rw [hleft, hright]

theorem WellFormed.extend_ofKernels (h : a.WellFormed) :
    (ofKernels a.kernels).extend a.rows = a := h.derive_eq h.conforms

theorem empty_merge (h : a.WellFormed) : empty.merge a = a := by
  have hmerge : empty.merge a = (ofKernels a.kernels).extend a.rows := by
    refine merge_congr ?_ (forall₂_sameMeasurements_refl a.rows)
    intro kernel
    simp [empty, ofKernels]
  rw [hmerge, h.extend_ofKernels]

theorem merge_empty (h : a.WellFormed) : a.merge empty = a := by
  have hmerge : a.merge empty = (ofKernels a.kernels).extend a.rows := by
    refine merge_congr ?_ ?_
    · intro kernel
      simp [empty, ofKernels]
    · have hrows : a.rows ++ (empty : Table α).rows = a.rows := List.append_nil a.rows
      rw [hrows]
      exact forall₂_sameMeasurements_refl a.rows
  rw [hmerge, h.extend_ofKernels]

/-- **Rows may be made into tables apart**, and the tables be merged. -/
theorem ofRows_append (xs ys : List (Observation α)) :
    ofRows (xs ++ ys) = (ofRows xs).merge (ofRows ys) := by
  refine Eq.symm (merge_congr ?_ ?_)
  · intro kernel
    rw [mem_kernels_ofRows, mem_kernels_ofRows, List.flatMap_append, List.mem_append]
  · exact List.rel_append (forall₂_ofRows xs) (forall₂_ofRows ys)

/-- Rows that list the kernels of an empty table are merged into it as they are. -/
theorem ofKernels_merge_ofRows {kernels : List Kernel} {rows : List (Observation α)}
    (h : ∀ row ∈ rows, row.Conforms kernels) :
    (ofKernels kernels).merge (ofRows rows) = ⟨Kernel.catalogued kernels, rows⟩ := by
  have hmerge : (ofKernels kernels).merge (ofRows rows) = (ofKernels kernels).extend rows := by
    refine merge_congr ?_ (forall₂_ofRows rows)
    intro kernel
    rw [mem_kernels_ofRows, ofKernels, Kernel.mem_catalogued, iff_self_or, List.mem_flatMap]
    rintro ⟨row, hrow, hkey⟩
    exact (h row hrow).mem_keys.1 hkey
  have hrows : rows.map (·.conform (Kernel.catalogued kernels)) = rows := by
    refine Observation.map_conform_eq_self ?_
    intro row hrow kernel
    rw [Kernel.mem_catalogued]
    exact h row hrow kernel
  rw [hmerge, extend, ofKernels, List.nil_append, hrows]

/-! ### Several tables -/

/-- Rows of several tables measure the same under the kernels of all of them. -/
theorem forall₂_extend_flatMap {tables : List (Table α)} (h : ∀ t ∈ tables, t.WellFormed) :
    List.Forall₂ Observation.SameMeasurements (tables.flatMap (·.rows))
      ((ofKernels (tables.flatMap (·.kernels))).extend (tables.flatMap (·.rows))).rows := by
  refine forall₂_map_conform ?_
  intro row hrow kernel hkernel
  obtain ⟨t, ht, hrow⟩ := List.mem_flatMap.1 hrow
  rw [ofKernels, Kernel.mem_catalogued, List.mem_flatMap]
  exact ⟨t, ht, ((h t ht).conforms row hrow).mem_keys.1 hkernel⟩

/-- **Tables that are merged one after the other** come to one table of all kernels that takes in all
rows. -/
theorem foldl_merge_eq {tables : List (Table α)} (h : ∀ t ∈ tables, t.WellFormed) :
    tables.foldl merge empty =
      (ofKernels (tables.flatMap (·.kernels))).extend (tables.flatMap (·.rows)) := by
  induction tables using List.reverseRecOn with
  | nil => rfl
  | append_singleton tables t ih =>
    have hbefore : ∀ t ∈ tables, t.WellFormed := fun t ht => h t (List.mem_append_left _ ht)
    rw [List.foldl_append, ih hbefore, List.foldl_cons, List.foldl_nil, List.flatMap_append,
      List.flatMap_append, List.flatMap_singleton, List.flatMap_singleton]
    apply merge_congr
    · intro kernel
      rw [List.mem_append, kernels_extend, ofKernels, Kernel.mem_catalogued]
    · exact List.rel_append (forall₂_extend_flatMap hbefore) (forall₂_sameMeasurements_refl t.rows)

theorem forall₂_foldl_merge {tables : List (Table α)} (h : ∀ t ∈ tables, t.WellFormed) :
    List.Forall₂ Observation.SameMeasurements (tables.flatMap (·.rows)) (tables.foldl merge empty).rows := by
  rw [foldl_merge_eq h]
  exact forall₂_extend_flatMap h

/-- **Merging is a monoid operation that loses nothing.**  The rows of both tables follow each other with
all that they measured, under the kernels of both in catalogue order; the steps in which tables are
merged do not matter, nor does a table without kernels and rows; and rows that follow each other make
the merge of the tables that they make. -/
theorem merge_monoid (ha : a.Built) (hb : b.Built) (hc : c.Built) (xs ys : List (Observation α)) :
    List.Forall₂ Observation.SameMeasurements (a.rows ++ b.rows) (a.merge b).rows ∧
    ((a.merge b).kernels.Pairwise (fun k l => k.rank < l.rank) ∧
      ∀ kernel, kernel ∈ (a.merge b).kernels ↔ kernel ∈ a.kernels ∨ kernel ∈ b.kernels) ∧
    (a.merge b).merge c = a.merge (b.merge c) ∧
    (empty.merge a = a ∧ a.merge empty = a) ∧
    ofRows (xs ++ ys) = (ofRows xs).merge (ofRows ys) := by
  have hmerged : (a.merge b).WellFormed := (ha.merge hb).wellFormed
  refine ⟨forall₂_merge ha.wellFormed hb.wellFormed, ⟨hmerged.pairwise_kernels, ?_⟩, ?_, ?_, ?_⟩
  · intro kernel
    exact mem_kernels_merge
  · exact merge_assoc ha.wellFormed hb.wellFormed hc.wellFormed
  · exact ⟨empty_merge ha.wellFormed, merge_empty ha.wellFormed⟩
  · exact ofRows_append xs ys

def oneResult (source : String) (kernel : Kernel) (gflops : Nat) : Observation Nat :=
  (⟨source, 10, some 32, ∅⟩ : Observation Nat).record kernel (some gflops)

def widerTable : Table Nat := (ofKernels [.sputnik, .zcx]).push (oneResult "a.mtx" .zcx 1)

def otherTable : Table Nat := ofRows [oneResult "b.mtx" .bsmr 2, oneResult "b.mtx" .roDe 3]

theorem merge_monoid_widerTable :
    (widerTable.Built ∧ otherTable.Built ∧ (otherTable.clean ⟨.roDe, none, none⟩).Built) ∧
    List.Forall₂ Observation.SameMeasurements (widerTable.rows ++ otherTable.rows)
      (widerTable.merge otherTable).rows ∧
    ((widerTable.merge otherTable).kernels.Pairwise (fun k l => k.rank < l.rank) ∧
      ∀ kernel, kernel ∈ (widerTable.merge otherTable).kernels ↔
        kernel ∈ widerTable.kernels ∨ kernel ∈ otherTable.kernels) ∧
    (widerTable.merge otherTable).merge (otherTable.clean ⟨.roDe, none, none⟩) =
      widerTable.merge (otherTable.merge (otherTable.clean ⟨.roDe, none, none⟩)) ∧
    (empty.merge widerTable = widerTable ∧ widerTable.merge empty = widerTable) ∧
    ofRows ([oneResult "a.mtx" .zcx 1] ++ [oneResult "b.mtx" .bsmr 2]) =
      (ofRows [oneResult "a.mtx" .zcx 1]).merge (ofRows [oneResult "b.mtx" .bsmr 2]) :=
  have hwider : widerTable.Built := .push _ (.ofKernels _)
  have hother : otherTable.Built := .ofRows _
  have hcleaned : (otherTable.clean ⟨.roDe, none, none⟩).Built := .clean _ hother
  ⟨⟨hwider, hother, hcleaned⟩, merge_monoid hwider hother hcleaned _ _⟩

end Table

end KernelCharts
