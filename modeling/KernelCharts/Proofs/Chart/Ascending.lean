import KernelCharts.Number.Numeral
import KernelCharts.Proofs.Chart.Partition
import KernelCharts.Proofs.Number.Exact
import KernelCharts.Proofs.Table.Cleaned
import Mathlib.Data.List.Forall2

/-!
# Charts run from sparse to dense

The rows of a cleaned table are sorted by whole numbers of nonzeros.  A chart has these numbers, or the means of
neighbouring ones, in a `Scalar` that rounds.

* `Scalar.KeepsOrder` — what rounding has to leave in order;
* `pairwise_windows` — the runs of a sorted column are sorted place by place;
* `Scalar.KeepsOrder.countSum_le_countSum` — so are their sums, however they are rounded;
* `Table.pairwise_nnz_normalize` — the numbers of nonzeros of a chart are in ascending order.
-/

namespace KernelCharts

/-! ## Rounding that keeps the order -/

namespace Scalar

variable {α : Type} [Scalar α]

/-- The number compares with itself, as every number does that is not undefined. -/
def IsDefined (x : α) : Prop := x ≤ x

/-- the sum of some counts from left to right, each converted before it is added -/
def countSum (counts : List Nat) : α := (counts.map ofNat).foldl (· + ·) emptySum

theorem countSum_concat (counts : List Nat) (n : Nat) :
    (countSum (counts ++ [n]) : α) = countSum counts + ofNat n := by
  rw [countSum, List.map_append, List.foldl_append]
  rfl

variable (α)

/-- Converting a count, adding and dividing by a count keep the order, and no sum of counts is undefined.  Counts
are those that fit in 64 bits. -/
structure KeepsOrder : Prop where
  ofNat_mono : ∀ {m n : Nat}, m ≤ n → n < Number.limit64 → (ofNat m : α) ≤ ofNat n
  add_mono : ∀ {a b c d : α}, a ≤ b → c ≤ d → IsDefined (a + c) → IsDefined (b + d) → a + c ≤ b + d
  div_mono : ∀ {a b : α} {n : Nat}, a ≤ b → 0 < n → n < Number.limit64 → a / ofNat n ≤ b / ofNat n
  isDefined_countSum : ∀ {counts : List Nat}, (∀ n ∈ counts, n < Number.limit64) →
    IsDefined (countSum counts : α)

variable {α}

/-- Sums that are in order stay so when larger counts are added to the larger one. -/
theorem KeepsOrder.countSum_append_le (h : KeepsOrder α) {xs ys : List Nat} (hle : List.Forall₂ (· ≤ ·) xs ys)
    (hys : ∀ n ∈ ys, n < Number.limit64) {before before' : List Nat}
    (hbefore : ∀ n ∈ before, n < Number.limit64) (hbefore' : ∀ n ∈ before', n < Number.limit64)
    (hsum : (countSum before : α) ≤ countSum before') :
    (countSum (before ++ xs) : α) ≤ countSum (before' ++ ys) := by
  -- the step adds one count to both sums, so the induction is over all that has been added before
  induction hle generalizing before before' with
  | nil => simpa only [List.append_nil] using hsum
  | @cons x y xs ys hxy _ ih =>
    have hy : y < Number.limit64 := hys y List.mem_cons_self
    have hconcat : ∀ n ∈ before ++ [x], n < Number.limit64 :=
      List.forall_mem_append.2 ⟨hbefore, List.forall_mem_singleton.2 (hxy.trans_lt hy)⟩
    have hconcat' : ∀ n ∈ before' ++ [y], n < Number.limit64 :=
      List.forall_mem_append.2 ⟨hbefore', List.forall_mem_singleton.2 hy⟩
    have hstep : (countSum (before ++ [x]) : α) ≤ countSum (before' ++ [y]) := by
      have hdefined := h.isDefined_countSum hconcat
      have hdefined' := h.isDefined_countSum hconcat'
      rw [countSum_concat] at hdefined hdefined' ⊢
      rw [countSum_concat]
      exact h.add_mono hsum (h.ofNat_mono hxy hy) hdefined hdefined'
    rw [List.append_cons before, List.append_cons before']
    exact ih (fun n hn => hys n (List.mem_cons_of_mem y hn)) hconcat hconcat' hstep

/-- Counts that are in order place by place have sums in order. -/
theorem KeepsOrder.countSum_le_countSum (h : KeepsOrder α) {xs ys : List Nat}
    (hle : List.Forall₂ (· ≤ ·) xs ys) (hys : ∀ n ∈ ys, n < Number.limit64) :
    (countSum xs : α) ≤ countSum ys :=
  h.countSum_append_le hle hys (List.forall_mem_nil _) (List.forall_mem_nil _)
    (h.isDefined_countSum (List.forall_mem_nil _))

/-- Arithmetic without rounding errors keeps the order. -/
theorem keepsOrder_exact (K : Type) [Field K] [LinearOrder K] [IsStrictOrderedRing K] [FloorRing K] :
    @KeepsOrder K (exact K) := by
  let := exact K
  constructor
  case ofNat_mono =>
    intro m n hmn _
    show ((m : ℤ) : K) ≤ ((n : ℤ) : K)
    exact_mod_cast hmn
  case add_mono => exact fun hab hcd _ _ => add_le_add hab hcd
  case div_mono =>
    intro a b n hab hn _
    show a / ((n : ℤ) : K) ≤ b / ((n : ℤ) : K)
    exact div_le_div_of_nonneg_right hab (by positivity)
  case isDefined_countSum => exact fun _ => le_refl _

end Scalar

/-! ## Sorted columns -/

/-- Each run of a sorted column is, place by place, in order with the later ones. -/
theorem pairwise_windows {β : Type} {R : β → β → Prop} {values : List β} (h : values.Pairwise R) (w : Nat) :
    (windows w values).Pairwise (List.Forall₂ R) := by
  unfold windows
  split
  · exact .nil
  rw [List.pairwise_map]
  refine List.pairwise_lt_range.imp_of_mem fun {i j} hi hj hij => ?_
  rw [List.mem_range] at hi hj
  rw [List.forall₂_iff_get]
  refine ⟨by simp only [List.length_take, List.length_drop]; omega, fun k hk hk' => ?_⟩
  rw [List.length_take, List.length_drop] at hk hk'
  simp only [List.get_eq_getElem, List.getElem_take, List.getElem_drop]
  exact List.pairwise_iff_getElem.1 h _ _ (by omega) (by omega) (by omega)

variable {α : Type}

namespace Table

/-- The rows of a width come by number of nonzeros. -/
theorem pairwise_rowsAt_clean (t : Table α) (s : Selection) (k : Nat) :
    (((t.clean s).rowsAt k).map (·.nnz)).Pairwise (· ≤ ·) :=
  List.pairwise_map.2 ((t.pairwise_rows_clean s).filter _)

/-- The rows of a cleaned table are rows of the table, with the throughputs of its kernels. -/
theorem exists_conform_of_mem_rowsAt_clean {t : Table α} {s : Selection} {k : Nat} {row : Observation α}
    (hrow : row ∈ (t.clean s).rowsAt k) : ∃ measured ∈ t.rows, row = measured.conform (Kernel.catalogued t.kernels) := by
  have hclean := List.mem_of_mem_filter hrow
  rw [rows_clean] at hclean
  obtain ⟨i, -, rfl⟩ := List.mem_map.1 hclean
  exact ⟨t.row i, List.getElem_mem _, rfl⟩

/-- The numbers of nonzeros of a cleaned table are those of rows of the table. -/
theorem exists_row_of_mem_rowsAt_clean {t : Table α} {s : Selection} {k n : Nat}
    (hn : n ∈ ((t.clean s).rowsAt k).map (·.nnz)) : ∃ row ∈ t.rows, row.nnz = n := by
  obtain ⟨row, hrow, rfl⟩ := List.mem_map.1 hn
  obtain ⟨measured, hmeasured, rfl⟩ := exists_conform_of_mem_rowsAt_clean hrow
  exact ⟨measured, hmeasured, rfl⟩

end Table

variable [Scalar α]

/-- The numbers of nonzeros of a smoothed chart are the means of the runs of its rows. -/
theorem ChartGroup.Averages.nnz_eq {g : ChartGroup α} {w : Nat} {kernels : List Kernel}
    {rows : List (Observation α)} (h : g.Averages w kernels rows) :
    g.nnz = (windows w (rows.map (·.nnz))).map fun run => Scalar.countSum run / Scalar.ofNat w := by
  have hrows : (rows.map fun row => some (Scalar.ofNat (α := α) row.nnz)) =
      ((rows.map (·.nnz)).map Scalar.ofNat).map some := by
    rw [List.map_map, List.map_map]
    rfl
  refine List.map_injective_iff.2 (Option.some_injective α) ?_
  rw [h.nnz, hrows, movingAverage_measured]
  refine congrArg (List.map some) ?_
  rw [windows_map, List.map_map]
  rfl

namespace Table

/-- **The numbers of nonzeros of a chart ascend**, as they are or averaged, whatever rounding does short of changing
the order. -/
theorem pairwise_nnz_normalize (h : Scalar.KeepsOrder α) (t : Table α) (s : Selection)
    (hrows : ∀ row ∈ t.rows, row.nnz < Number.limit64) (hwindow : ∀ w ∈ s.window, w < Number.limit64) :
    ∀ g ∈ (t.normalize s).groups, g.nnz.Pairwise (· ≤ ·) := by
  intro g hg
  have hsorted := t.pairwise_rowsAt_clean s g.k
  have hlimit : ∀ n ∈ ((t.clean s).rowsAt g.k).map (·.nnz), n < Number.limit64 := fun n hn => by
    obtain ⟨row, hrow, rfl⟩ := exists_row_of_mem_rowsAt_clean hn
    exact hrows row hrow
  rcases group_cases hg with ⟨-, hraw⟩ | ⟨w, hw, hw0, -, haverages⟩
  · have hnnz : g.nnz = (((t.clean s).rowsAt g.k).map (·.nnz)).map Scalar.ofNat := by
      rw [hraw.nnz, List.map_map]
      rfl
    rw [hnnz, List.pairwise_map]
    exact hsorted.imp_of_mem fun _ hn hle => h.ofNat_mono hle (hlimit _ hn)
  · rw [haverages.nnz_eq, List.pairwise_map]
    refine (pairwise_windows hsorted w).imp_of_mem fun _ hrun hle => ?_
    refine h.div_mono (h.countSum_le_countSum hle fun n hn => ?_) (Nat.pos_of_ne_zero hw0) (hwindow w hw)
    exact hlimit n (mem_of_mem_windows hrun hn)

def threeMatrices : Table ℚ := .ofRows
  [ (⟨"a.mtx", 100, some 32, ∅⟩ : Observation ℚ).record .bsmr (some 1),
    (⟨"b.mtx", 300, some 32, ∅⟩ : Observation ℚ).record .bsmr (some 2),
    (⟨"c.mtx", 700, some 32, ∅⟩ : Observation ℚ).record .bsmr (some 3) ]

theorem pairwise_nnz_normalize_threeMatrices :
    (@normalize ℚ (.exact ℚ) threeMatrices ⟨.bsmr, none, some 2⟩).groups.map (·.nnz) = [[200, 500]] ∧
    ∀ g ∈ (@normalize ℚ (.exact ℚ) threeMatrices ⟨.bsmr, none, some 2⟩).groups, g.nnz.Pairwise (· ≤ ·) := by
  refine ⟨?_, @pairwise_nnz_normalize ℚ (.exact ℚ) (Scalar.keepsOrder_exact ℚ) threeMatrices
    ⟨.bsmr, none, some 2⟩ (by decide) (by decide)⟩
  have hsorted : threeMatrices.rows.mergeSort (fun a b => a.nnz ≤ b.nnz) = threeMatrices.rows :=
    List.mergeSort_of_pairwise (by decide)
  unfold normalize clean
  rw [hsorted]
  decide +kernel

end Table

end KernelCharts
