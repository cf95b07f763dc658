import KernelCharts.Proofs.Table.Built
import KernelCharts.Proofs.Table.Order
import Mathlib.Data.List.FinRange

/-!
# The rows that survive cleaning

Cleaning sorts, drops incomplete rows, drops duplicates and applies the bounds, in this order.  Here
the outcome is said without an order of steps: a row survives when it is complete, within the bounds,
and no other complete row of its matrix and width comes before it by number of nonzeros and place.

* `Table.Candidate`, `Table.Precedes`, `Table.Survives` — the rule, on places in the table;
* `Table.survivors` — the places that cleaning keeps, in the order in which it keeps them
  (`Table.mem_survivors`, `Table.pairwise_survivors`);
* `Table.clean_survivors` — the cleaned table holds the rows of exactly the places that survive.
-/

namespace KernelCharts

variable {α : Type}

theorem Selection.inRange_iff {s : Selection} {row : Observation α} :
    s.inRange row = true ↔ ∀ lo hi, s.nnzRange = some (lo, hi) → lo ≤ row.nnz ∧ row.nnz ≤ hi := by
  unfold Selection.inRange
  split <;> simp_all

namespace Table

variable (t : Table α) (s : Selection)

/-! ## The rule -/

def row (i : Fin t.rows.length) : Observation α := t.rows[i]

/-- The row at a place has a width and a result of the reference. -/
def Candidate (i : Fin t.rows.length) : Prop :=
  (t.row i).k.isSome ∧ ((t.row i).gflops s.reference).isSome

/-- One place comes before another: by number of nonzeros, and by place among equals. -/
def Precedes (i j : Fin t.rows.length) : Prop :=
  (t.row i).nnz < (t.row j).nnz ∨ (t.row i).nnz = (t.row j).nnz ∧ i < j

/-- The row at a place is kept.  The rows that it is compared with need not lie within the bounds. -/
structure Survives (i : Fin t.rows.length) : Prop where
  candidate : t.Candidate s i
  inRange : ∀ lo hi, s.nnzRange = some (lo, hi) → lo ≤ (t.row i).nnz ∧ (t.row i).nnz ≤ hi
  first : ∀ j, j ≠ i → t.Candidate s j → (t.row j).source = (t.row i).source →
    (t.row j).k = (t.row i).k → ¬ t.Precedes j i

variable {t s}

theorem Precedes.asymm (i j : Fin t.rows.length) (h : t.Precedes i j) : ¬ t.Precedes j i := by
  unfold Precedes at *
  omega

theorem candidate_iff {i : Fin t.rows.length} : t.Candidate s i ↔ s.complete (t.row i) = true := by
  simp [Candidate, Selection.complete]

/-! ## The places that are kept -/

variable (t s)

/-- the places of a table by number of nonzeros -/
def sortedPlaces : List (Fin t.rows.length) :=
  (List.finRange t.rows.length).mergeSort fun i j => (t.row i).nnz ≤ (t.row j).nnz

def survivors : List (Fin t.rows.length) :=
  (keepFirst (fun i => (t.row i).key) (t.sortedPlaces.filter fun i => s.complete (t.row i))).filter
    fun i => s.inRange (t.row i)

theorem map_row_finRange : (List.finRange t.rows.length).map t.row = t.rows := by
  refine List.ext_getElem (by simp) fun i h1 h2 => ?_
  simp [row]

theorem mem_sortedPlaces (i : Fin t.rows.length) : i ∈ t.sortedPlaces :=
  List.mem_mergeSort.2 (List.mem_finRange i)

/-- Sorting is stable, so the sorted places follow the rule of precedence. -/
theorem pairwise_sortedPlaces : t.sortedPlaces.Pairwise t.Precedes := by
  have hsorted := pairwise_mergeSort_stable
    (fun i j : Fin t.rows.length => decide ((t.row i).nnz ≤ (t.row j).nnz))
    (by intro a b c h1 h2; simp only [decide_eq_true_eq] at *; omega)
    (by intro a b; simp only [Bool.or_eq_true, decide_eq_true_eq]; omega)
    (List.pairwise_lt_finRange t.rows.length)
  refine hsorted.imp fun {i j} h => ?_
  simp only [decide_eq_true_eq] at h
  rcases Nat.lt_or_eq_of_le h.1 with hlt | heq
  · exact .inl hlt
  · exact .inr ⟨heq, h.2 (Nat.le_of_eq heq.symm)⟩

/-- the steps of cleaning, carried out on places -/
theorem map_row_survivors : (t.survivors s).map t.row =
    (keepFirst Observation.key ((t.rows.mergeSort fun a b => a.nnz ≤ b.nnz).filter s.complete)).filter
      s.inRange := by
  have hsort : t.sortedPlaces.map t.row = t.rows.mergeSort fun a b => a.nnz ≤ b.nnz := by
    conv_rhs => rw [← t.map_row_finRange]
    exact List.map_mergeSort fun i _ j _ => rfl
  rw [← hsort, List.filter_map, ← map_keepFirst, List.filter_map]
  rfl

theorem pairwise_survivors : (t.survivors s).Pairwise t.Precedes :=
  ((t.pairwise_sortedPlaces.filter _).sublist (keepFirst_sublist _ _)).filter _

theorem mem_survivors {i : Fin t.rows.length} : i ∈ t.survivors s ↔ t.Survives s i := by
  have hsorted := t.pairwise_sortedPlaces.filter fun i => s.complete (t.row i)
  simp only [survivors, List.mem_filter, mem_keepFirst_iff Precedes.asymm hsorted, mem_sortedPlaces,
    true_and, ← candidate_iff, Selection.inRange_iff]
  constructor
  · rintro ⟨⟨hcandidate, hfirst⟩, hrange⟩
    exact ⟨hcandidate, hrange, fun j _ hj hsource hk => hfirst j hj (Prod.ext hsource hk)⟩
  · rintro ⟨hcandidate, hrange, hfirst⟩
    refine ⟨⟨hcandidate, fun j hj hkey hji => ?_⟩, hrange⟩
    have hne : j ≠ i := fun h => Precedes.asymm j i hji (h ▸ hji)
    have hsource : (t.row j).source = (t.row i).source := congrArg Prod.fst hkey
    have hk : (t.row j).k = (t.row i).k := congrArg Prod.snd hkey
    exact hfirst j hne hj hsource hk hji

/-- a matrix has one row at each width -/
theorem nodup_keys_survivors : (((t.survivors s).map t.row).map Observation.key).Nodup := by
  rw [map_row_survivors]
  exact List.pairwise_map.2 ((pairwise_keepFirst _ _).filter _)

/-! ## The cleaned table -/

variable {t}

/-- **What cleaning keeps.**  A table that is built is cleaned to the rows of the places that
survive, each as it was, by number of nonzeros and place; the kernels stay, and no matrix has two
rows of one width. -/
theorem clean_survivors (h : t.Built) :
    ∃ kept : List (Fin t.rows.length), (∀ i, i ∈ kept ↔ t.Survives s i) ∧ kept.Pairwise t.Precedes ∧
      (t.clean s).rows = kept.map t.row ∧ (t.clean s).kernels = t.kernels ∧
      ((t.clean s).rows.map fun row => (row.source, row.k)).Nodup := by
  have hclean : t.clean s = ⟨t.kernels, (t.survivors s).map t.row⟩ := by
    unfold clean
    rw [map_row_survivors]
    refine h.wellFormed.derive_eq fun row hrow => h.wellFormed.conforms row ?_
    rw [← map_row_survivors, List.mem_map] at hrow
    obtain ⟨i, -, rfl⟩ := hrow
    exact List.getElem_mem _
  refine ⟨t.survivors s, fun i => t.mem_survivors s, t.pairwise_survivors s, ?_, ?_, ?_⟩
  · rw [hclean]
  · rw [hclean]
  · rw [hclean]
    exact t.nodup_keys_survivors s

/-- two runs of one matrix, the sparser one first, and a run of another matrix -/
def reruns : Table Nat := .ofRows
  [ (⟨"a.mtx", 50, some 32, ∅⟩ : Observation Nat).record .bsmr (some 7),
    (⟨"b.mtx", 120, some 32, ∅⟩ : Observation Nat).record .bsmr (some 9),
    (⟨"a.mtx", 150, some 32, ∅⟩ : Observation Nat).record .bsmr (some 8) ]

theorem clean_survivors_reruns : reruns.Built ∧
    ∃ kept : List (Fin reruns.rows.length),
      (∀ i, i ∈ kept ↔ reruns.Survives ⟨.bsmr, some (100, 200), none⟩ i) ∧
        kept.Pairwise reruns.Precedes ∧
        (reruns.clean ⟨.bsmr, some (100, 200), none⟩).rows = kept.map reruns.row ∧
        (reruns.clean ⟨.bsmr, some (100, 200), none⟩).kernels = reruns.kernels ∧
        ((reruns.clean ⟨.bsmr, some (100, 200), none⟩).rows.map
          fun row => (row.source, row.k)).Nodup :=
  ⟨.ofRows _, clean_survivors _ (.ofRows _)⟩

end Table

end KernelCharts
