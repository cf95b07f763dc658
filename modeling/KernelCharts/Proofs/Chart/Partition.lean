import KernelCharts.Chart.Group
import KernelCharts.Proofs.Chart.MovingAverage

/-!
# The charts of a table partition its cleaned rows

* `mem_ascending`, `pairwise_ascending` — the widths of a table, each once and in ascending order;
* `ChartGroup.Holds`, `ChartGroup.Averages` — a chart has the columns of some rows, or the moving
  averages of these;
* `Normalized.Partitions` — how the charts and the widths left out share the cleaned rows;
* `Table.normalize_partitions` — normalizing partitions the cleaned rows, with all columns of a chart
  aligned.
-/

namespace KernelCharts

/-! ## Ascending lists -/

theorem mem_insertAscending {m n : Nat} {ns : List Nat} : m ∈ insertAscending n ns ↔ m = n ∨ m ∈ ns := by
  induction ns with
  | nil => simp [insertAscending]
  | cons k ks ih =>
    unfold insertAscending
    split
    · simp
    · split
      · next h => simp [h]
      · simp only [List.mem_cons, ih]
        exact or_left_comm

@[simp] theorem mem_ascending {n : Nat} {ns : List Nat} : n ∈ ascending ns ↔ n ∈ ns := by
  induction ns with
  | nil => simp [ascending]
  | cons m ms ih =>
    have h : ascending (m :: ms) = insertAscending m (ascending ms) := rfl
    rw [h, mem_insertAscending, ih, List.mem_cons]

theorem pairwise_insertAscending {n : Nat} {ns : List Nat} (h : ns.Pairwise (· < ·)) :
    (insertAscending n ns).Pairwise (· < ·) := by
  induction ns with
  | nil => simp [insertAscending]
  | cons k ks ih =>
    obtain ⟨hk, hks⟩ := List.pairwise_cons.1 h
    unfold insertAscending
    split
    · next hlt =>
      refine List.pairwise_cons.2 ⟨fun m hm => ?_, h⟩
      rcases List.mem_cons.1 hm with rfl | hm
      · exact hlt
      · exact Nat.lt_trans hlt (hk m hm)
    · split
      · exact h
      · refine List.pairwise_cons.2 ⟨fun m hm => ?_, ih hks⟩
        rcases mem_insertAscending.1 hm with rfl | hm
        · omega
        · exact hk m hm

theorem pairwise_ascending (ns : List Nat) : (ascending ns).Pairwise (· < ·) := by
  induction ns with
  | nil => exact .nil
  | cons n ns ih => exact pairwise_insertAscending ih

theorem nodup_ascending (ns : List Nat) : (ascending ns).Nodup :=
  (pairwise_ascending ns).imp fun h => Nat.ne_of_lt h

/-- The ascending list of some numbers depends on which numbers there are. -/
theorem ascending_congr {ms ns : List Nat} (h : ∀ n, n ∈ ms ↔ n ∈ ns) : ascending ms = ascending ns := by
  have hperm : (ascending ms).Perm (ascending ns) := by
    rw [List.perm_ext_iff_of_nodup (nodup_ascending ms) (nodup_ascending ns)]
    intro n
    rw [mem_ascending, mem_ascending, h]
  refine hperm.eq_of_pairwise ?_ (pairwise_ascending ms) (pairwise_ascending ns)
  intro a b _ _ hab hba
  omega

variable {α : Type}

theorem Table.mem_widths {t : Table α} {k : Nat} : k ∈ t.widths ↔ ∃ row ∈ t.rows, row.k = some k := by
  simp only [Table.widths, mem_ascending, List.mem_filterMap]

/-! ## Columns -/

section Series

variable {g : ChartGroup α} {kernels : List Kernel} {column : Kernel → List (Option α)}
  (hseries : ∀ kernel, g.series.get? kernel = if kernel ∈ kernels then some (column kernel) else none)

include hseries

theorem ChartGroup.mem_keys_of_series (kernel : Kernel) : kernel ∈ g.series.keys ↔ kernel ∈ kernels := by
  rw [KernelMap.mem_keys, hseries]
  split <;> simp_all

theorem ChartGroup.aligned_of_series (hcolumn : ∀ kernel, (column kernel).length = g.nnz.length)
    {kernel : Kernel} {values : List (Option α)} (hvalues : g.series.get? kernel = some values) :
    values.length = g.nnz.length := by
  rw [hseries] at hvalues
  split at hvalues
  · cases hvalues
    exact hcolumn kernel
  · cases hvalues

end Series

variable [Scalar α]

/-- The chart has, position by position, the matrices, numbers of nonzeros and throughputs of some
rows, and a column for each of some kernels. -/
structure ChartGroup.Holds (g : ChartGroup α) (kernels : List Kernel) (rows : List (Observation α)) :
    Prop where
  sources : g.sources = rows.map (·.source)
  nnz : g.nnz = rows.map fun row => Scalar.ofNat row.nnz
  series : ∀ kernel, g.series.get? kernel =
    if kernel ∈ kernels then some (rows.map (·.gflops kernel)) else none

/-- The chart has the moving averages of the columns of some rows, and no matrices. -/
structure ChartGroup.Averages (g : ChartGroup α) (w : Nat) (kernels : List Kernel)
    (rows : List (Observation α)) : Prop where
  sources : g.sources = []
  length : g.nnz.length = rows.length - w + 1
  nnz : g.nnz.map some = movingAverage w (rows.map fun row => some (Scalar.ofNat row.nnz))
  series : ∀ kernel, g.series.get? kernel =
    if kernel ∈ kernels then some (movingAverage w (rows.map (·.gflops kernel))) else none

theorem ChartGroup.Holds.ofRows (k : Nat) (kernels : List Kernel) (rows : List (Observation α)) :
    (ChartGroup.ofRows k kernels rows).Holds kernels rows where
  sources := rfl
  nnz := rfl
  series := fun kernel => KernelMap.get?_restrict kernels _ kernel

theorem ChartGroup.Averages.smoothed (k : Nat) (kernels : List Kernel) (rows : List (Observation α))
    {w : Nat} (hw : w ≠ 0) (hrows : w ≤ rows.length) :
    ((ChartGroup.ofRows k kernels rows).smoothed w).Averages w kernels rows := by
  have hnnz : ((ChartGroup.ofRows k kernels rows).smoothed w).nnz.map some =
      movingAverage w (rows.map fun row => some (Scalar.ofNat row.nnz)) := by
    have h := movingAverage_map_some w (ChartGroup.ofRows k kernels rows).nnz
    exact h.trans (congrArg (movingAverage w) List.map_map)
  refine ⟨rfl, ?_, hnnz, fun kernel => ?_⟩
  · have hlength := congrArg List.length hnnz
    rw [List.length_map, length_movingAverage hw, List.length_map] at hlength
    omega
  · simp only [ChartGroup.smoothed, ChartGroup.ofRows, KernelMap.get?_mapValues,
      KernelMap.get?_restrict]
    split <;> rfl

/-! ## Outcomes of widths -/

theorem groupOrSkip_raw {window : Option Nat} (h : window = none ∨ window = some 0) (k : Nat)
    (kernels : List Kernel) (rows : List (Observation α)) :
    groupOrSkip window k kernels rows = .ok (.ofRows k kernels rows) := by
  rcases h with rfl | rfl <;> rfl

theorem groupOrSkip_window {w : Nat} (hw : w ≠ 0) (k : Nat) (kernels : List Kernel)
    (rows : List (Observation α)) : groupOrSkip (some w) k kernels rows =
      if rows.length < w then .error ⟨k, rows.length, w⟩
      else .ok ((ChartGroup.ofRows k kernels rows).smoothed w) := by
  cases w with
  | zero => exact absurd rfl hw
  | succ w => rfl

/-- What the rows of a width come to is about this width, with or without a chart. -/
theorem groupOrSkip_cases (window : Option Nat) (k : Nat) (kernels : List Kernel)
    (rows : List (Observation α)) :
    ((window = none ∨ window = some 0) ∧
      ∃ g, groupOrSkip window k kernels rows = .ok g ∧ g.k = k ∧ g.Holds kernels rows) ∨
    ∃ w, window = some w ∧ w ≠ 0 ∧
      (rows.length < w ∧ groupOrSkip window k kernels rows = .error ⟨k, rows.length, w⟩ ∨
        w ≤ rows.length ∧
          ∃ g, groupOrSkip window k kernels rows = .ok g ∧ g.k = k ∧ g.Averages w kernels rows) := by
  by_cases hraw : window = none ∨ window = some 0
  · exact .inl ⟨hraw, _, groupOrSkip_raw hraw k kernels rows, rfl, .ofRows k kernels rows⟩
  · obtain ⟨w, rfl⟩ := Option.ne_none_iff_exists'.1 fun h => hraw (.inl h)
    have hw : w ≠ 0 := fun h => hraw (.inr (congrArg some h))
    refine .inr ⟨w, rfl, hw, ?_⟩
    rw [groupOrSkip_window hw]
    by_cases h : rows.length < w
    · exact .inl ⟨h, if_pos h⟩
    · exact .inr ⟨by omega, _, if_neg h, rfl, .smoothed k kernels rows hw (by omega)⟩

theorem groupOrSkip_eq_ok {window : Option Nat} {k : Nat} {kernels : List Kernel}
    {rows : List (Observation α)} {g : ChartGroup α} (h : groupOrSkip window k kernels rows = .ok g) :
    (window = none ∨ window = some 0) ∧ g.Holds kernels rows ∨
      ∃ w, window = some w ∧ w ≠ 0 ∧ w ≤ rows.length ∧ g.Averages w kernels rows := by
  rcases groupOrSkip_cases window k kernels rows with
    ⟨hw, g', h', -, hg⟩ | ⟨w, hw, hw0, ⟨-, h'⟩ | ⟨hrows, g', h', -, hg⟩⟩ <;> rw [h'] at h <;> cases h
  · exact .inl ⟨hw, hg⟩
  · exact .inr ⟨w, hw, hw0, hrows, hg⟩

theorem groupOrSkip_eq_error {window : Option Nat} {k : Nat} {kernels : List Kernel}
    {rows : List (Observation α)} {x : SkippedGroup} :
    groupOrSkip window k kernels rows = .error x ↔
      ∃ w, window = some w ∧ w ≠ 0 ∧ rows.length < w ∧ x = ⟨k, rows.length, w⟩ := by
  rcases groupOrSkip_cases window k kernels rows with
    ⟨hw, g', h', -, -⟩ | ⟨w, hw, hw0, ⟨hrows, h'⟩ | ⟨hrows, g', h', -, -⟩⟩ <;> rw [h']
  · rcases hw with rfl | rfl <;> simp
  · constructor
    · rintro ⟨⟩
      exact ⟨w, hw, hw0, hrows, rfl⟩
    · rintro ⟨w', hw', -, -, rfl⟩
      rw [hw, Option.some.injEq] at hw'
      rw [hw']
  · simp only [reduceCtorEq, false_iff]
    rintro ⟨w', hw', -, hlt, -⟩
    rw [hw, Option.some.injEq] at hw'
    omega

def outcomeWidth : Except SkippedGroup (ChartGroup α) → Nat
  | .ok g => g.k
  | .error skipped => skipped.k

theorem outcomeWidth_groupOrSkip (window : Option Nat) (k : Nat) (kernels : List Kernel)
    (rows : List (Observation α)) : outcomeWidth (groupOrSkip window k kernels rows) = k := by
  rcases groupOrSkip_cases window k kernels rows with
    ⟨-, g, h, hk, -⟩ | ⟨w, -, -, ⟨-, h⟩ | ⟨-, g, h, hk, -⟩⟩ <;> rw [h]
  · exact hk
  · rfl
  · exact hk

namespace Table

/-- an outcome of a table is the outcome of the width that it is about -/
theorem mem_outcomes {t : Table α} {window : Option Nat} {x : Except SkippedGroup (ChartGroup α)} :
    x ∈ t.outcomes window ↔ outcomeWidth x ∈ t.widths ∧
      groupOrSkip window (outcomeWidth x) t.kernels (t.rowsAt (outcomeWidth x)) = x := by
  rw [outcomes, List.mem_map]
  constructor
  · rintro ⟨k, hk, rfl⟩
    rw [outcomeWidth_groupOrSkip]
    exact ⟨hk, rfl⟩
  · rintro ⟨hk, h⟩
    exact ⟨_, hk, h⟩

/-- the outcomes of a table are about ascending widths -/
theorem pairwise_outcomes (t : Table α) (window : Option Nat) :
    (t.outcomes window).Pairwise fun x y => outcomeWidth x < outcomeWidth y := by
  refine List.pairwise_map.2 ((pairwise_ascending _).imp fun {j k} h => ?_)
  rwa [outcomeWidth_groupOrSkip, outcomeWidth_groupOrSkip]

theorem normalize_groups (t : Table α) (s : Selection) : (t.normalize s).groups =
    (t.clean s).widths.filterMap fun k =>
      (groupOrSkip s.window k (t.clean s).kernels ((t.clean s).rowsAt k)).toOption := by
  simp only [normalize, outcomes, List.filterMap_map]
  congr 1
  funext k
  rw [Function.comp_apply]
  cases groupOrSkip s.window k (t.clean s).kernels ((t.clean s).rowsAt k) <;> rfl

theorem mem_normalize_groups {t : Table α} {s : Selection} {g : ChartGroup α} :
    g ∈ (t.normalize s).groups ↔ .ok g ∈ (t.clean s).outcomes s.window := by
  simp only [normalize, List.mem_filterMap]
  constructor
  · rintro ⟨x | g', hx, h⟩ <;> cases h
    exact hx
  · exact fun h => ⟨_, h, rfl⟩

theorem mem_normalize_skipped {t : Table α} {s : Selection} {x : SkippedGroup} :
    x ∈ (t.normalize s).skipped ↔ .error x ∈ (t.clean s).outcomes s.window := by
  simp only [normalize, List.mem_filterMap]
  constructor
  · rintro ⟨x' | g, hx, h⟩ <;> cases h
    exact hx
  · exact fun h => ⟨_, h, rfl⟩

theorem pairwise_normalize_groups (t : Table α) (s : Selection) :
    ((t.normalize s).groups.map (·.k)).Pairwise (· < ·) := by
  refine List.pairwise_map.2 ((pairwise_outcomes _ s.window).filterMap _ ?_)
  rintro (x | g) (y | g') h a ha b hb <;> cases ha <;> cases hb
  exact h

theorem pairwise_normalize_skipped (t : Table α) (s : Selection) :
    ((t.normalize s).skipped.map (·.k)).Pairwise (· < ·) := by
  refine List.pairwise_map.2 ((pairwise_outcomes _ s.window).filterMap _ ?_)
  rintro (x | g) (y | g') h a ha b hb <;> cases ha <;> cases hb
  exact h

end Table

/-! ## The partition -/

/-- The charts and the widths left out share the rows of a cleaned table. -/
structure Normalized.Partitions (n : Normalized α) (cleaned : Table α) (window : Option Nat) : Prop
    where
  groups_ascending : (n.groups.map (·.k)).Pairwise (· < ·)
  skipped_ascending : (n.skipped.map (·.k)).Pairwise (· < ·)
  disjoint : ∀ k ∈ n.groups.map (·.k), k ∉ n.skipped.map (·.k)
  covering : ∀ k, k ∈ n.groups.map (·.k) ∨ k ∈ n.skipped.map (·.k) ↔
    ∃ row ∈ cleaned.rows, row.k = some k
  /-- without a window every width has a chart of its rows as they are -/
  raw : window = none ∨ window = some 0 → n.skipped = [] ∧
    ∀ g ∈ n.groups, g.Holds cleaned.kernels (cleaned.rowsAt g.k)
  /-- with a window exactly the widths with fewer rows are left out -/
  skips : ∀ w, window = some w → w ≠ 0 → ∀ x, x ∈ n.skipped ↔
    (∃ row ∈ cleaned.rows, row.k = some x.k) ∧ x.rows = (cleaned.rowsAt x.k).length ∧
      x.window = w ∧ x.rows < w
  /-- with a window the other widths have charts of moving averages -/
  averaged : ∀ w, window = some w → w ≠ 0 → ∀ g ∈ n.groups,
    w ≤ (cleaned.rowsAt g.k).length ∧ g.Averages w cleaned.kernels (cleaned.rowsAt g.k)
  keys : ∀ g ∈ n.groups, ∀ kernel, kernel ∈ g.series.keys ↔ kernel ∈ cleaned.kernels
  aligned : ∀ g ∈ n.groups, ∀ kernel values, g.series.get? kernel = some values →
    values.length = g.nnz.length

namespace ChartGroup

variable {g : ChartGroup α} {kernels : List Kernel} {rows : List (Observation α)} {kernel : Kernel}
  {values : List (Option α)}

theorem Holds.aligned (h : g.Holds kernels rows) (hvalues : g.series.get? kernel = some values) :
    values.length = g.nnz.length := by
  refine aligned_of_series h.series (fun kernel => ?_) hvalues
  rw [h.nnz, List.length_map, List.length_map]

/-- The columns are averaged one by one, and stay aligned. -/
theorem Averages.aligned {w : Nat} (h : g.Averages w kernels rows)
    (hvalues : g.series.get? kernel = some values) : values.length = g.nnz.length := by
  refine aligned_of_series h.series (fun kernel => ?_) hvalues
  have hlength := congrArg List.length h.nnz
  rw [List.length_map] at hlength
  rw [hlength]
  exact length_movingAverage_congr w (by rw [List.length_map, List.length_map])

end ChartGroup

namespace Table

variable (t : Table α) (s : Selection)

theorem mem_groups_width (k : Nat) : k ∈ (t.normalize s).groups.map (·.k) ↔
    k ∈ (t.clean s).widths ∧
      ∃ g, groupOrSkip s.window k (t.clean s).kernels ((t.clean s).rowsAt k) = .ok g := by
  simp only [List.mem_map, mem_normalize_groups, mem_outcomes]
  constructor
  · rintro ⟨g, ⟨hk, hg⟩, rfl⟩
    exact ⟨hk, g, hg⟩
  · rintro ⟨hk, g, hg⟩
    have hwidth := outcomeWidth_groupOrSkip s.window k (t.clean s).kernels ((t.clean s).rowsAt k)
    rw [hg] at hwidth
    exact ⟨g, hwidth ▸ ⟨hk, hg⟩, hwidth⟩

theorem mem_skipped_width (k : Nat) : k ∈ (t.normalize s).skipped.map (·.k) ↔
    k ∈ (t.clean s).widths ∧
      ∃ x, groupOrSkip s.window k (t.clean s).kernels ((t.clean s).rowsAt k) = .error x := by
  simp only [List.mem_map, mem_normalize_skipped, mem_outcomes]
  constructor
  · rintro ⟨x, ⟨hk, hx⟩, rfl⟩
    exact ⟨hk, x, hx⟩
  · rintro ⟨hk, x, hx⟩
    have hwidth := outcomeWidth_groupOrSkip s.window k (t.clean s).kernels ((t.clean s).rowsAt k)
    rw [hx] at hwidth
    exact ⟨x, hwidth ▸ ⟨hk, hx⟩, hwidth⟩

/-- A width comes to one outcome. -/
theorem disjoint_widths (k : Nat) (hgroup : k ∈ (t.normalize s).groups.map (·.k)) :
    k ∉ (t.normalize s).skipped.map (·.k) := by
  intro hskipped
  obtain ⟨-, g, hg⟩ := (t.mem_groups_width s k).1 hgroup
  obtain ⟨-, x, hx⟩ := (t.mem_skipped_width s k).1 hskipped
  cases hg.symm.trans hx

theorem covering_widths (k : Nat) :
    k ∈ (t.normalize s).groups.map (·.k) ∨ k ∈ (t.normalize s).skipped.map (·.k) ↔
      ∃ row ∈ (t.clean s).rows, row.k = some k := by
  rw [mem_groups_width, mem_skipped_width, ← mem_widths, ← and_or_left, and_iff_left_iff_imp]
  intro _
  cases groupOrSkip s.window k (t.clean s).kernels ((t.clean s).rowsAt k) with
  | ok g => exact .inl ⟨g, rfl⟩
  | error x => exact .inr ⟨x, rfl⟩

variable {t s}

theorem group_cases {g : ChartGroup α} (hg : g ∈ (t.normalize s).groups) :
    (s.window = none ∨ s.window = some 0) ∧ g.Holds (t.clean s).kernels ((t.clean s).rowsAt g.k) ∨
      ∃ w, s.window = some w ∧ w ≠ 0 ∧ w ≤ ((t.clean s).rowsAt g.k).length ∧
        g.Averages w (t.clean s).kernels ((t.clean s).rowsAt g.k) :=
  groupOrSkip_eq_ok (mem_outcomes.1 (mem_normalize_groups.1 hg)).2

theorem skipped_iff {x : SkippedGroup} : x ∈ (t.normalize s).skipped ↔
    x.k ∈ (t.clean s).widths ∧ ∃ w, s.window = some w ∧ w ≠ 0 ∧
      ((t.clean s).rowsAt x.k).length < w ∧ x = ⟨x.k, ((t.clean s).rowsAt x.k).length, w⟩ := by
  rw [mem_normalize_skipped, mem_outcomes, groupOrSkip_eq_error]
  rfl

theorem normalize_raw (h : s.window = none ∨ s.window = some 0) : (t.normalize s).skipped = [] ∧
    ∀ g ∈ (t.normalize s).groups, g.Holds (t.clean s).kernels ((t.clean s).rowsAt g.k) := by
  have hno : ∀ w, s.window = some w → w = 0 := by
    intro w hw
    rcases h with h | h <;> simp_all
  refine ⟨List.eq_nil_iff_forall_not_mem.2 fun x hx => ?_, fun g hg => ?_⟩
  · obtain ⟨-, w, hw, hw0, -⟩ := skipped_iff.1 hx
    exact hw0 (hno w hw)
  · rcases group_cases hg with ⟨-, hholds⟩ | ⟨w, hw, hw0, -⟩
    · exact hholds
    · exact absurd (hno w hw) hw0

theorem normalize_skips {w : Nat} (hw : s.window = some w) (hw0 : w ≠ 0) (x : SkippedGroup) :
    x ∈ (t.normalize s).skipped ↔ (∃ row ∈ (t.clean s).rows, row.k = some x.k) ∧
      x.rows = ((t.clean s).rowsAt x.k).length ∧ x.window = w ∧ x.rows < w := by
  rw [skipped_iff, mem_widths]
  refine and_congr_right fun _ => ⟨?_, ?_⟩
  · rintro ⟨w', hw', -, hlt, hx⟩
    rw [hw, Option.some.injEq] at hw'
    subst hw'
    rw [hx]
    exact ⟨rfl, rfl, hlt⟩
  · rintro ⟨hrows, rfl, hlt⟩
    refine ⟨x.window, hw, hw0, hrows ▸ hlt, ?_⟩
    rw [← hrows]

theorem normalize_averaged {w : Nat} (hw : s.window = some w) (hw0 : w ≠ 0) {g : ChartGroup α}
    (hg : g ∈ (t.normalize s).groups) : w ≤ ((t.clean s).rowsAt g.k).length ∧
      g.Averages w (t.clean s).kernels ((t.clean s).rowsAt g.k) := by
  rcases group_cases hg with ⟨hraw, -⟩ | ⟨w', hw', -, hrows, h⟩
  · rcases hraw with hraw | hraw <;> simp_all
  · rw [hw, Option.some.injEq] at hw'
    subst hw'
    exact ⟨hrows, h⟩

/-- The columns of a chart are as long as its numbers of nonzeros. -/
theorem length_of_mem_groups {g : ChartGroup α} (hg : g ∈ (t.normalize s).groups) {kernel : Kernel}
    {values : List (Option α)} (hvalues : g.series.get? kernel = some values) : values.length = g.nnz.length := by
  rcases group_cases hg with ⟨-, h⟩ | ⟨w, -, -, -, h⟩
  · exact h.aligned hvalues
  · exact h.aligned hvalues

variable (t s)

/-- **Normalizing partitions the cleaned rows**, and the columns of the charts are aligned under the
kernels of the table. -/
theorem normalize_partitions : (t.normalize s).Partitions (t.clean s) s.window ∧
    ∀ kernel, kernel ∈ (t.clean s).kernels ↔ kernel ∈ t.kernels := by
  refine ⟨?_, fun kernel => Kernel.mem_catalogued⟩
  constructor
  case groups_ascending => exact pairwise_normalize_groups t s
  case skipped_ascending => exact pairwise_normalize_skipped t s
  case disjoint => exact disjoint_widths t s
  case covering => exact covering_widths t s
  case raw => exact normalize_raw
  case skips => exact fun w hw hw0 => normalize_skips hw hw0
  case averaged => exact fun w hw hw0 g hg => normalize_averaged hw hw0 hg
  case keys =>
    intro g hg
    rcases group_cases hg with ⟨-, h⟩ | ⟨w, -, -, -, h⟩
    · exact ChartGroup.mem_keys_of_series h.series
    · exact ChartGroup.mem_keys_of_series h.series
  case aligned => exact fun g hg kernel values => length_of_mem_groups hg

end Table

end KernelCharts
