import KernelCharts.Proofs.Chart.Partition
import KernelCharts.Proofs.Table.Survivors

/-!
# The widths of a table do not interfere

Sorting and cleaning run over all rows of a table at once, whatever their widths.  Still the chart of
a width depends on the rows of this width only, and on their order only among equals.

* `Table.sortedAt` — the rows of a width by number of nonzeros;
* `Normalized.at` — what normalizing makes of a width;
* `Table.rowsAt_clean` — cleaning a table cleans the rows of every width by themselves;
* `Table.permute`, `Table.KeepsTies` — a table with its rows in another order, and orders that keep
  rows of one width and number of nonzeros as they stand;
* `Table.normalize_separates` — tables with the same sorted rows of a width have the same chart of it,
  so that an order that keeps ties changes nothing.
-/

namespace KernelCharts

variable {α : Type}

/-! ## One width -/

/-- the rows of one width by number of nonzeros; rows with the same number keep their order -/
def Table.sortedAt (t : Table α) (k : Nat) : List (Observation α) :=
  (t.rowsAt k).mergeSort fun a b => a.nnz ≤ b.nnz

/-- what normalizing makes of one width: its chart, or the note that it is left out, or neither -/
def Normalized.at (n : Normalized α) (k : Nat) : List (ChartGroup α) × List SkippedGroup :=
  (n.groups.filter (·.k == k), n.skipped.filter (·.k == k))

namespace Table

/-! ## Cleaning -/

/-- **Cleaning a table cleans the rows of every width by themselves.** -/
theorem rowsAt_clean (t : Table α) (s : Selection) (k : Nat) : (t.clean s).rowsAt k =
    ((keepFirst Observation.key ((t.sortedAt k).filter s.complete)).filter s.inRange).map
      (·.conform (Kernel.catalogued t.kernels)) := by
  have hkey : ∀ a b : Observation α, a.key = b.key → (a.k == some k) = (b.k == some k) := by
    intro a b h
    rw [show a.k = b.k from congrArg Prod.snd h]
  have hrows : (t.clean s).rows = ((keepFirst Observation.key
      ((t.rows.mergeSort fun a b => a.nnz ≤ b.nnz).filter s.complete)).filter s.inRange).map
        (·.conform (Kernel.catalogued t.kernels)) := List.nil_append _
  -- the width is looked at last; every step of cleaning lets it go first
  have hwidth : (fun row : Observation α => row.k == some k) ∘
      (Observation.conform (Kernel.catalogued t.kernels)) = fun row => row.k == some k := rfl
  rw [rowsAt, hrows, List.filter_map, hwidth, List.filter_comm, filter_keepFirst _ hkey,
    List.filter_comm, filter_mergeSort_le]
  rfl

theorem rowsAt_clean_congr {t u : Table α} (s : Selection) {k : Nat} (hkernels : t.kernels = u.kernels)
    (h : t.sortedAt k = u.sortedAt k) : (t.clean s).rowsAt k = (u.clean s).rowsAt k := by
  rw [rowsAt_clean, rowsAt_clean, h, hkernels]

/-! ## Other orders -/

/-- the table with its rows in another order -/
def permute (t : Table α) (σ : Equiv.Perm (Fin t.rows.length)) : Table α :=
  { t with rows := (List.finRange t.rows.length).map fun i => t.row (σ i) }

/-- The order keeps rows of one width and number of nonzeros as they stand. -/
def KeepsTies (t : Table α) (σ : Equiv.Perm (Fin t.rows.length)) : Prop :=
  ∀ i j, i < j → (t.row (σ i)).k = (t.row (σ j)).k → (t.row (σ i)).nnz = (t.row (σ j)).nnz →
    σ i < σ j

section

variable {t : Table α} {σ : Equiv.Perm (Fin t.rows.length)}

/-- The places of rows of one width and number of nonzeros keep their order. -/
theorem KeepsTies.filter_map (h : t.KeepsTies σ) (k n : Nat) :
    ((List.finRange t.rows.length).map σ).filter (fun i => (t.row i).k == some k && (t.row i).nnz == n) =
      (List.finRange t.rows.length).filter fun i => (t.row i).k == some k && (t.row i).nnz == n := by
  refine List.Perm.eq_of_pairwise ?_ ?_ ((List.pairwise_lt_finRange _).filter _)
    (σ.map_finRange_perm.filter _)
  · exact fun i j _ _ h1 h2 => absurd h1 (lt_asymm h2)
  rw [List.filter_map, List.pairwise_map]
  refine ((List.pairwise_lt_finRange _).filter _).imp_of_mem fun {i j} hi hj hij => ?_
  simp only [List.mem_filter, Function.comp_apply, Bool.and_eq_true, beq_iff_eq] at hi hj
  exact h i j hij (hi.2.1.trans hj.2.1.symm) (hi.2.2.trans hj.2.2.symm)

theorem KeepsTies.sortedAt_permute (h : t.KeepsTies σ) (k : Nat) :
    (t.permute σ).sortedAt k = t.sortedAt k := by
  refine mergeSort_congr fun n => ?_
  have hrows : (t.permute σ).rows = ((List.finRange t.rows.length).map σ).map t.row :=
    List.map_map.symm
  have hplaces := congrArg (List.map t.row) (h.filter_map k n)
  rw [rowsAt, rowsAt, List.filter_filter, List.filter_filter, hrows, List.filter_map]
  conv_rhs => rw [← t.map_row_finRange, List.filter_map]
  simp only [Bool.and_comm] at hplaces
  exact hplaces

end

/-! ## Outcomes -/

theorem mem_widths_iff_rowsAt {t : Table α} {k : Nat} : k ∈ t.widths ↔ t.rowsAt k ≠ [] := by
  simp only [mem_widths, rowsAt, ne_eq, List.filter_eq_nil_iff, beq_iff_eq, not_forall, not_not,
    exists_prop]

/-- a width occurs once among the widths of a table, if at all -/
theorem filter_widths (t : Table α) (k : Nat) :
    t.widths.filter (· == k) = if t.rowsAt k = [] then [] else [k] := by
  have hnodup : t.widths.Nodup := (pairwise_ascending _).imp fun h => Nat.ne_of_lt h
  rw [List.filter_beq]
  by_cases hk : k ∈ t.widths
  · rw [List.count_eq_one_of_mem hnodup hk, if_neg (mem_widths_iff_rowsAt.1 hk)]
    rfl
  · rw [List.count_eq_zero_of_not_mem hk, if_pos (by simpa [mem_widths_iff_rowsAt] using hk)]
    rfl

variable [Scalar α]

/-- **The outcome of a width depends on its own rows.** -/
theorem filter_outcomes (t : Table α) (window : Option Nat) (k : Nat) :
    (t.outcomes window).filter (fun x => outcomeWidth x == k) =
      if t.rowsAt k = [] then [] else [groupOrSkip window k t.kernels (t.rowsAt k)] := by
  have hwidth : ((fun x => outcomeWidth x == k) ∘ fun k => groupOrSkip window k t.kernels (t.rowsAt k)) =
      fun j => j == k := by
    funext j
    rw [Function.comp_apply, outcomeWidth_groupOrSkip]
  rw [outcomes, List.filter_map, hwidth, filter_widths]
  split <;> rfl

/-- The outcomes of one width of a normalized table are those of its cleaned rows. -/
theorem normalize_at (t : Table α) (s : Selection) (k : Nat) : (t.normalize s).at k =
    let outcomes := ((t.clean s).outcomes s.window).filter fun x => outcomeWidth x == k
    (outcomes.filterMap fun | .ok group => some group | .error _ => none,
      outcomes.filterMap fun | .ok _ => none | .error skipped => some skipped) := by
  unfold Normalized.at normalize
  simp only [List.filter_filterMap, List.filterMap_filter]
  congr 2
  · funext x
    cases x with
    | ok group => rw [Option.filter_some]; rfl
    | error skipped => simp
  · funext x
    cases x with
    | ok group => simp
    | error skipped => rw [Option.filter_some]; rfl

theorem normalize_at_congr {t u : Table α} (s : Selection) {k : Nat} (hkernels : t.kernels = u.kernels)
    (h : t.sortedAt k = u.sortedAt k) : (t.normalize s).at k = (u.normalize s).at k := by
  have hclean : (t.clean s).kernels = (u.clean s).kernels := congrArg Kernel.catalogued hkernels
  rw [normalize_at, normalize_at, filter_outcomes, filter_outcomes, rowsAt_clean_congr s hkernels h,
    hclean]

/-- what normalizing makes of the widths, one by one, is all there is -/
theorem normalize_ext {t u : Table α} {s : Selection}
    (h : ∀ k, (t.normalize s).at k = (u.normalize s).at k) : t.normalize s = u.normalize s := by
  have hgroups : (t.normalize s).groups = (u.normalize s).groups :=
    eq_of_filter_eq ((List.pairwise_map.1 (pairwise_normalize_groups t s)).imp Nat.le_of_lt)
      ((List.pairwise_map.1 (pairwise_normalize_groups u s)).imp Nat.le_of_lt)
      fun k => congrArg Prod.fst (h k)
  have hskipped : (t.normalize s).skipped = (u.normalize s).skipped :=
    eq_of_filter_eq ((List.pairwise_map.1 (pairwise_normalize_skipped t s)).imp Nat.le_of_lt)
      ((List.pairwise_map.1 (pairwise_normalize_skipped u s)).imp Nat.le_of_lt)
      fun k => congrArg Prod.snd (h k)
  exact congrArg₂ Normalized.mk hgroups hskipped

/-- **The widths of a table do not interfere.**  Tables with the same kernels and the same sorted rows
of a width have the same chart of it, whatever other rows they have; and another order of the rows
that keeps ties leaves all charts as they are. -/
theorem normalize_separates (s : Selection) :
    (∀ (t u : Table α) (k : Nat), t.kernels = u.kernels → t.sortedAt k = u.sortedAt k →
      (t.normalize s).at k = (u.normalize s).at k) ∧
    ∀ (t : Table α) (σ : Equiv.Perm (Fin t.rows.length)), t.KeepsTies σ →
      (t.permute σ).normalize s = t.normalize s := by
  refine ⟨fun t u k => normalize_at_congr s, fun t σ h => normalize_ext fun k => ?_⟩
  exact normalize_at_congr s rfl (h.sortedAt_permute k)

def bsmrRow (source : String) (nnz k : Nat) (gflops : Float) : Observation Float :=
  (⟨source, nnz, some k, ∅⟩ : Observation Float).record .bsmr (some gflops)

def mixedWidths : Table Float :=
  ⟨[.bsmr], [bsmrRow "a.mtx" 300 32 1.0, bsmrRow "b.mtx" 200 64 2.0, bsmrRow "c.mtx" 100 32 3.0]⟩

/-- the rows of width 32 alone, the sparser matrix first -/
def oneWidth : Table Float := ⟨[.bsmr], [bsmrRow "c.mtx" 100 32 3.0, bsmrRow "a.mtx" 300 32 1.0]⟩

def otherFirst : Equiv.Perm (Fin mixedWidths.rows.length) := Equiv.swap ⟨0, by decide⟩ ⟨1, by decide⟩

theorem normalize_separates_mixedWidths :
    (mixedWidths.kernels = oneWidth.kernels ∧ mixedWidths.sortedAt 32 = oneWidth.sortedAt 32 ∧
      (mixedWidths.normalize ⟨.bsmr, none, none⟩).at 32 =
        (oneWidth.normalize ⟨.bsmr, none, none⟩).at 32) ∧
    mixedWidths.KeepsTies otherFirst ∧
      (mixedWidths.permute otherFirst).normalize ⟨.bsmr, none, none⟩ =
        mixedWidths.normalize ⟨.bsmr, none, none⟩ := by
  have hsorted : mixedWidths.sortedAt 32 = oneWidth.sortedAt 32 := by
    have hone : oneWidth.sortedAt 32 = oneWidth.rows := List.mergeSort_of_pairwise (by decide)
    have hmixed : mixedWidths.sortedAt 32 =
        [bsmrRow "a.mtx" 300 32 1.0, bsmrRow "c.mtx" 100 32 3.0].mergeSort fun a b => a.nnz ≤ b.nnz := rfl
    rw [hone, hmixed, mergeSort_cons_eq, List.mergeSort_singleton]
    · rfl
    · simp only [decide_eq_true_eq]; omega
    · simp only [Bool.or_eq_true, decide_eq_true_eq]; omega
  have hties : mixedWidths.KeepsTies otherFirst := by
    unfold KeepsTies
    decide
  have h := normalize_separates (α := Float) ⟨.bsmr, none, none⟩
  exact ⟨⟨rfl, hsorted, h.1 _ _ 32 rfl hsorted⟩, hties, h.2 _ _ hties⟩

end Table

end KernelCharts
