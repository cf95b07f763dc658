import KernelCharts.Chart.Group
import KernelCharts.Proofs.Table.Measurements
import KernelCharts.Proofs.Table.Survivors

/-!
# Cleaned tables

Cleaning brings a table into a normal form, and every step of cleaning leaves a table in this form as
it is.

* `Table.Cleaned` — the normal form for a selection;
* `Table.WellFormed.cleaned_clean` — cleaning reaches it;
* `Table.Cleaned.clean_eq` — cleaning does not change it;
* `Table.clean_idempotent` — cleaning twice is cleaning once, and charts do not tell a table from the
  cleaned one.

Well-formedness is needed on the way: a row that has a result of the reference under a table that does
not list the reference loses the result when it is taken in, and is no longer complete.
-/

namespace KernelCharts

variable {α : Type}

namespace Table

/-- The table is as cleaning leaves it: the rows are sorted and complete, lie within the bounds, and
have keys of their own. -/
structure Cleaned (t : Table α) (s : Selection) : Prop where
  wellFormed : t.WellFormed
  sorted : t.rows.Pairwise fun a b => a.nnz ≤ b.nnz
  complete : ∀ row ∈ t.rows, s.complete row = true
  distinct : (t.rows.map Observation.key).Nodup
  inRange : ∀ row ∈ t.rows, s.inRange row = true

/-! ### Cleaning reaches the form -/

section Reached

variable (t : Table α) (s : Selection)

theorem rows_clean : (t.clean s).rows =
    (t.survivors s).map fun i => (t.row i).conform (Kernel.catalogued t.kernels) := by
  have hrows : (t.clean s).rows =
      ((t.survivors s).map t.row).map (·.conform (Kernel.catalogued t.kernels)) := by
    rw [map_row_survivors]
    exact List.nil_append _
  rw [hrows, List.map_map]
  rfl

theorem pairwise_rows_clean : (t.clean s).rows.Pairwise fun a b => a.nnz ≤ b.nnz := by
  rw [rows_clean, List.pairwise_map]
  refine (t.pairwise_survivors s).imp ?_
  intro i j hij
  show (t.row i).nnz ≤ (t.row j).nnz
  unfold Precedes at hij
  omega

theorem nodup_keys_clean : ((t.clean s).rows.map Observation.key).Nodup := by
  have hkeys : (t.clean s).rows.map Observation.key =
      ((t.survivors s).map t.row).map Observation.key := by
    rw [rows_clean, List.map_map, List.map_map]
    rfl
  rw [hkeys]
  exact t.nodup_keys_survivors s

variable {t s}

/-- A well-formed table with a candidate lists the reference. -/
theorem WellFormed.reference_mem (h : t.WellFormed) {i : Fin t.rows.length} (hi : t.Candidate s i) :
    s.reference ∈ t.kernels := by
  by_contra hmem
  have hrow : t.row i ∈ t.rows := List.getElem_mem _
  have hkeys : s.reference ∉ (t.row i).throughput.keys := by
    intro hk
    exact hmem ((h.conforms _ hrow).mem_keys.1 hk)
  have hgflops := hi.2
  rw [Observation.gflops_eq_none hkeys] at hgflops
  cases hgflops

theorem WellFormed.cleaned_clean (h : t.WellFormed) (s : Selection) : (t.clean s).Cleaned s := by
  refine ⟨wellFormed_derive t _, t.pairwise_rows_clean s, ?_, t.nodup_keys_clean s, ?_⟩
  · intro row hrow
    rw [rows_clean, List.mem_map] at hrow
    obtain ⟨i, hi, rfl⟩ := hrow
    have hcandidate := ((t.mem_survivors s).1 hi).candidate
    -- the row is taken in under a table that lists the reference
    have hmem : s.reference ∈ Kernel.catalogued t.kernels :=
      Kernel.mem_catalogued.2 (h.reference_mem hcandidate)
    rw [Selection.complete, Observation.k_conform, Observation.gflops_conform, if_pos hmem]
    exact candidate_iff.1 hcandidate
  · intro row hrow
    rw [rows_clean, List.mem_map] at hrow
    obtain ⟨i, hi, rfl⟩ := hrow
    have hrange := ((t.mem_survivors s).1 hi).inRange
    exact Selection.inRange_iff.2 hrange

end Reached

/-! ### Cleaning keeps the form -/

variable {t : Table α} {s : Selection}

/-- **Cleaning does not change a cleaned table.** -/
theorem Cleaned.clean_eq (h : t.Cleaned s) : t.clean s = t := by
  have hsort : t.rows.mergeSort (fun a b => a.nnz ≤ b.nnz) = t.rows := by
    apply List.mergeSort_of_pairwise
    exact h.sorted.imp fun hle => decide_eq_true hle
  have hcomplete : t.rows.filter s.complete = t.rows := List.filter_eq_self.2 h.complete
  have hkeys : keepFirst Observation.key t.rows = t.rows := keepFirst_eq_self h.distinct
  have hrange : t.rows.filter s.inRange = t.rows := List.filter_eq_self.2 h.inRange
  have hderive : t.derive t.rows = t := h.wellFormed.derive_eq h.wellFormed.conforms
  simp only [clean, hsort, hcomplete, hkeys, hrange, hderive]

/-- **Cleaning twice is cleaning once**, and the charts of a table are those of the cleaned table. -/
theorem clean_idempotent [Scalar α] (h : t.Built) (s : Selection) :
    (t.clean s).clean s = t.clean s ∧ (t.clean s).normalize s = t.normalize s := by
  have hclean : (t.clean s).clean s = t.clean s := (h.wellFormed.cleaned_clean s).clean_eq
  refine ⟨hclean, ?_⟩
  unfold normalize
  rw [hclean]

/-- runs of three matrices, not sorted: one is run twice, one lacks the reference, and one is out of the
bounds that are used below -/
def unsortedRuns : Table Float := .ofRows
  [ (⟨"b.mtx", 500, some 32, ∅⟩ : Observation Float).record .bsmr (some 3.0),
    (⟨"a.mtx", 100, some 32, ∅⟩ : Observation Float).record .roDe (some 1.0),
    (⟨"a.mtx", 150, some 32, ∅⟩ : Observation Float).record .bsmr (some 1.5),
    (⟨"a.mtx", 120, some 32, ∅⟩ : Observation Float).record .bsmr (some 2.5),
    (⟨"c.mtx", 5000, some 32, ∅⟩ : Observation Float).record .bsmr (some 1.0) ]

/-- bounds that one of the runs misses -/
def someBounds : Selection := ⟨.bsmr, some (100, 1000), some 2⟩

/-- bounds in reverse, so that nothing lies within them -/
def reversedBounds : Selection := ⟨.bsmr, some (1000, 100), none⟩

theorem clean_idempotent_unsortedRuns : unsortedRuns.Built ∧
    ((unsortedRuns.clean someBounds).clean someBounds = unsortedRuns.clean someBounds ∧
      (unsortedRuns.clean someBounds).normalize someBounds = unsortedRuns.normalize someBounds) ∧
    (unsortedRuns.clean reversedBounds).clean reversedBounds = unsortedRuns.clean reversedBounds ∧
      (unsortedRuns.clean reversedBounds).normalize reversedBounds =
        unsortedRuns.normalize reversedBounds :=
  ⟨.ofRows _, clean_idempotent (.ofRows _) someBounds, clean_idempotent (.ofRows _) reversedBounds⟩

end Table

end KernelCharts
