import KernelCharts.Grid.Points
import KernelCharts.Proofs.Chart.Partition
import KernelCharts.Proofs.Table.Built
import KernelCharts.Proofs.Table.Order
import Mathlib.Data.List.Forall2

/-!
# Zeros and gaps

A grid leaves zeros out of its lines, since a zero stands for a run that did not happen.  The zeros go
last of all, after the columns are averaged.

* `Table.withoutZeros` — the table with a gap for every measured zero, the reference apart;
* `Table.ZerosAreGaps` — zeros may be exchanged for gaps: both tables have the same charts, with the
  same points;
* `Blends` — a run of neighbouring values has a zero among them and still a mean that is drawn;
* `Table.zerosAreGaps_iff` — zeros may be exchanged for gaps exactly when nothing blends.  Without a
  window nothing does.
-/

namespace KernelCharts

variable {α : Type} [Scalar α]

/-! ## Gaps for zeros -/

/-- a value, unless it is zero -/
def nonzero (value : Option α) : Option α := value.filter fun y => !(y == 0.0)

theorem nonzero_nonzero (value : Option α) : nonzero (nonzero value) = nonzero value := by
  cases value with
  | none => rfl
  | some y => cases h : y == 0.0 <;> simp [nonzero, Option.filter, h]

/-- the row with a gap for every measured zero, the reference apart -/
def Observation.withoutZeros (reference : Kernel) (row : Observation α) : Observation α :=
  { row with
    throughput := .ofFn fun kernel => (row.throughput.get? kernel).map fun value =>
      if kernel = reference then value else nonzero value }

/-- the table with a gap for every measured zero, the reference apart -/
def Table.withoutZeros (t : Table α) (reference : Kernel) : Table α :=
  { t with rows := t.rows.map (·.withoutZeros reference) }

theorem Observation.gflops_withoutZeros (reference kernel : Kernel) (row : Observation α) :
    (row.withoutZeros reference).gflops kernel =
      if kernel = reference then row.gflops kernel else nonzero (row.gflops kernel) := by
  unfold Observation.gflops Observation.withoutZeros
  rw [KernelMap.get?_ofFn]
  cases row.throughput.get? kernel with
  | none => split <;> rfl
  | some value => split <;> rfl

theorem Observation.conform_withoutZeros (reference : Kernel) (kernels : List Kernel)
    (row : Observation α) :
    (row.withoutZeros reference).conform kernels = (row.conform kernels).withoutZeros reference := by
  have hmap : KernelMap.restrict kernels (row.withoutZeros reference).gflops =
      ((row.conform kernels).withoutZeros reference).throughput := by
    refine KernelMap.ext fun kernel => ?_
    unfold Observation.withoutZeros Observation.conform
    rw [KernelMap.get?_restrict, KernelMap.get?_ofFn, KernelMap.get?_restrict]
    split
    · exact congrArg some (gflops_withoutZeros reference kernel row)
    · rfl
  unfold Observation.conform at hmap ⊢
  rw [hmap]
  rfl

/-- The gaps do not touch what cleaning looks at. -/
theorem Table.clean_withoutZeros (t : Table α) (s : Selection) :
    (t.withoutZeros s.reference).clean s = (t.clean s).withoutZeros s.reference := by
  have hsort : ((t.rows.map (·.withoutZeros s.reference)).mergeSort fun a b => a.nnz ≤ b.nnz) =
      (t.rows.mergeSort fun a b => a.nnz ≤ b.nnz).map (·.withoutZeros s.reference) :=
    (List.map_mergeSort (f := Observation.withoutZeros s.reference) fun _ _ _ _ => rfl).symm
  have hcomplete : s.complete ∘ (·.withoutZeros s.reference) = s.complete (α := α) := by
    funext row
    simp only [Function.comp_apply, Selection.complete, Observation.gflops_withoutZeros, if_true]
    rfl
  have hconform : (fun row : Observation α => (row.withoutZeros s.reference).conform
      (Kernel.catalogued t.kernels)) = fun row => (row.conform (Kernel.catalogued t.kernels)).withoutZeros
        s.reference := by
    funext row
    exact Observation.conform_withoutZeros s.reference _ row
  unfold Table.clean Table.withoutZeros Table.derive Table.ofKernels
  simp only [hsort, List.filter_map, hcomplete, ← map_keepFirst]
  simp only [Table.extend, List.nil_append, List.map_map, Function.comp_def, hconform]
  rfl

/-! ## Points -/

/-- the points of two columns that are drawn -/
def columnPoints (nnz : List α) (values : List (Option α)) : List (α × α) :=
  (nnz.zip values).filterMap fun point => (nonzero point.2).map fun y => (point.1, y)

theorem plottedPoints_eq {g : ChartGroup α} {kernel : Kernel} {values : List (Option α)}
    (h : g.series.get? kernel = some values) :
    Grid.plottedPoints g kernel = columnPoints g.nnz values := by
  unfold Grid.plottedPoints ChartGroup.points columnPoints
  rw [h, List.filter_filterMap]
  refine List.filterMap_congr fun point _ => ?_
  obtain ⟨x, y⟩ := point
  cases y with
  | none => rfl
  | some y => cases hy : y == 0.0 <;> simp [nonzero, Option.filter, hy]

theorem plottedPoints_eq_nil {g : ChartGroup α} {kernel : Kernel} (h : g.series.get? kernel = none) :
    Grid.plottedPoints g kernel = [] := by
  unfold Grid.plottedPoints ChartGroup.points
  rw [h]
  rfl

theorem columnPoints_nonzero (nnz : List α) (values : List (Option α)) :
    columnPoints nnz (values.map nonzero) = columnPoints nnz values := by
  unfold columnPoints
  rw [List.zip_map_right, List.filterMap_map]
  refine List.filterMap_congr fun point _ => ?_
  simp only [Function.comp_apply, Prod.map_snd, Prod.map_fst, id_eq, nonzero_nonzero]

theorem length_filterMap_le {β γ : Type} {f g : β → Option γ} {l : List β}
    (h : ∀ a ∈ l, f a = none ∨ f a = g a) : (l.filterMap f).length ≤ (l.filterMap g).length := by
  rw [List.length_filterMap_eq_countP, List.length_filterMap_eq_countP]
  refine List.countP_mono_left fun a ha hf => ?_
  rcases h a ha with hnone | heq
  · simp [hnone] at hf
  · rwa [← heq]

/-- Leaving elements out changes the list, since it makes it shorter. -/
theorem filterMap_eq_iff {β γ : Type} {f g : β → Option γ} {l : List β}
    (h : ∀ a ∈ l, f a = none ∨ f a = g a) :
    l.filterMap f = l.filterMap g ↔ ∀ a ∈ l, f a = g a := by
  refine ⟨fun heq => ?_, List.filterMap_congr⟩
  induction l with
  | nil => simp
  | cons a l ih =>
    have hl : ∀ b ∈ l, f b = none ∨ f b = g b := fun b hb => h b (List.mem_cons_of_mem a hb)
    have hle := length_filterMap_le hl
    rw [List.forall_mem_cons]
    rcases h a List.mem_cons_self with hnone | hsame
    · cases hg : g a with
      | none =>
        rw [List.filterMap_cons_none hnone, List.filterMap_cons_none hg] at heq
        exact ⟨hnone, ih hl heq⟩
      | some c =>
        rw [List.filterMap_cons_none hnone, List.filterMap_cons_some hg] at heq
        rw [heq, List.length_cons] at hle
        omega
    · refine ⟨hsame, ih hl ?_⟩
      cases hg : g a with
      | none =>
        rwa [List.filterMap_cons_none (hsame.trans hg), List.filterMap_cons_none hg] at heq
      | some c =>
        rw [List.filterMap_cons_some (hsame.trans hg), List.filterMap_cons_some hg] at heq
        exact (List.cons.inj heq).2

/-! ## Averages of gaps -/

/-- a run of values with a zero among them -/
def HasZero (run : List (Option α)) : Prop := ∃ zero, some zero ∈ run ∧ (zero == 0.0) = true

theorem runMean_map_nonzero_of_hasZero {run : List (Option α)} (h : HasZero run) (w : Nat) :
    runMean w (run.map nonzero) = none := by
  obtain ⟨zero, hmem, hzero⟩ := h
  refine runMean_eq_none (List.mem_map.2 ⟨some zero, hmem, ?_⟩)
  simp [nonzero, Option.filter, hzero]

theorem map_nonzero_of_not_hasZero {run : List (Option α)} (h : ¬ HasZero run) :
    run.map nonzero = run := by
  have hid : run.map nonzero = run.map id := by
    refine List.map_congr_left fun value hvalue => ?_
    cases value with
    | none => rfl
    | some y =>
      have hy : (y == 0.0) = false := by
        rw [← Bool.not_eq_true]
        exact fun hzero => h ⟨y, hvalue, hzero⟩
      simp [nonzero, Option.filter, hy]
  rw [hid, List.map_id]

/-- A run of `w` neighbouring values has a zero among them and still a mean that is drawn. -/
def Blends (w : Nat) (values : List (Option α)) : Prop :=
  ∃ run ∈ windows w values, HasZero run ∧ ∃ mean, runMean w run = some mean ∧ (mean == 0.0) = false

theorem not_blends_iff {w : Nat} {values : List (Option α)} :
    ¬ Blends w values ↔
      ∀ run ∈ windows w values, HasZero run → nonzero (runMean w run) = none := by
  simp only [Blends, not_exists, not_and]
  refine forall₃_congr fun run _ _ => ?_
  simp [nonzero]

/-- Without zeros there is nothing to blend. -/
theorem not_blends_of_forall_none {values : List (Option α)} (h : ∀ value ∈ values, value = none)
    (w : Nat) : ¬ Blends w values := by
  rintro ⟨run, hrun, ⟨zero, hzero, -⟩, -⟩
  cases h _ (mem_of_mem_windows hrun hzero)

theorem columnPoints_map_windows (nnz : List α) (w : Nat) (values : List (Option α))
    (mean : List (Option α) → Option α) : columnPoints nnz ((windows w values).map mean) =
      (nnz.zip (windows w values)).filterMap fun point =>
        (nonzero (mean point.2)).map fun y => (point.1, y) := by
  unfold columnPoints
  rw [List.zip_map_right, List.filterMap_map]
  rfl

theorem movingAverage_map_nonzero (w : Nat) (values : List (Option α)) :
    movingAverage w (values.map nonzero) =
      (windows w values).map fun run => runMean w (run.map nonzero) := by
  rw [movingAverage_eq_map, windows_map, List.map_map]
  rfl

/-- **Averaging before or after the zeros go makes a difference** exactly if something blends. -/
theorem columnPoints_movingAverage_iff {nnz : List α} {w : Nat} {values : List (Option α)}
    (h : nnz.length = (movingAverage w values).length) :
    columnPoints nnz (movingAverage w (values.map nonzero)) =
        columnPoints nnz (movingAverage w values) ↔ ¬ Blends w values := by
  have hleft : ∀ run : List (Option α), runMean w (run.map nonzero) = none ∨
      runMean w (run.map nonzero) = runMean w run := by
    intro run
    by_cases hzero : HasZero run
    · exact .inl (runMean_map_nonzero_of_hasZero hzero w)
    · exact .inr (congrArg (runMean w) (map_nonzero_of_not_hasZero hzero))
  rw [movingAverage_map_nonzero, movingAverage_eq_map, columnPoints_map_windows,
    columnPoints_map_windows, filterMap_eq_iff, not_blends_iff]
  · constructor
    · intro hpoints run hrun hzero
      -- every run stands beside a number of nonzeros
      have hlength : (windows w values).length = nnz.length := by
        rw [h, movingAverage_eq_map, List.length_map]
      rw [← List.map_snd_zip (Nat.le_of_eq hlength)] at hrun
      obtain ⟨point, hpoint, rfl⟩ := List.mem_map.1 hrun
      have heq := hpoints point hpoint
      rw [runMean_map_nonzero_of_hasZero hzero] at heq
      exact Option.map_eq_none_iff.1 heq.symm
    · intro hruns point hpoint
      by_cases hzero : HasZero point.2
      · rw [runMean_map_nonzero_of_hasZero hzero, hruns _ (List.of_mem_zip hpoint).2 hzero]
        rfl
      · rw [map_nonzero_of_not_hasZero hzero]
  · intro point _
    rcases hleft point.2 with hnone | hsame
    · rw [hnone]
      exact .inl rfl
    · rw [hsame]
      exact .inr rfl

/-! ## Charts of gaps -/

section Charts

variable {g g' : ChartGroup α} {kernels : List Kernel} {rows : List (Observation α)}
  {reference kernel : Kernel}

theorem map_nnz_withoutZeros (reference : Kernel) (rows : List (Observation α)) {β : Type}
    (f : Nat → β) :
    (rows.map (·.withoutZeros reference)).map (fun row => f row.nnz) = rows.map fun row => f row.nnz := by
  rw [List.map_map]
  rfl

theorem map_gflops_withoutZeros (rows : List (Observation α)) (h : kernel ≠ reference) :
    (rows.map (·.withoutZeros reference)).map (·.gflops kernel) =
      (rows.map (·.gflops kernel)).map nonzero := by
  rw [List.map_map, List.map_map]
  refine List.map_congr_left fun row _ => ?_
  simp only [Function.comp_apply, Observation.gflops_withoutZeros, if_neg h]

theorem ChartGroup.Holds.nnz_withoutZeros (h : g.Holds kernels rows)
    (h' : g'.Holds kernels (rows.map (·.withoutZeros reference))) : g'.nnz = g.nnz := by
  rw [h.nnz, h'.nnz, map_nnz_withoutZeros]

/-- Rows that are drawn as they are have the same points with gaps. -/
theorem ChartGroup.Holds.plottedPoints_withoutZeros (h : g.Holds kernels rows)
    (h' : g'.Holds kernels (rows.map (·.withoutZeros reference))) (hkernel : kernel ≠ reference) :
    Grid.plottedPoints g' kernel = Grid.plottedPoints g kernel := by
  have hg := h.series kernel
  have hg' := h'.series kernel
  by_cases hmem : kernel ∈ kernels
  · rw [if_pos hmem] at hg hg'
    rw [plottedPoints_eq hg, plottedPoints_eq hg', h.nnz_withoutZeros h',
      map_gflops_withoutZeros rows hkernel, columnPoints_nonzero]
  · rw [if_neg hmem] at hg hg'
    rw [plottedPoints_eq_nil hg, plottedPoints_eq_nil hg']

theorem ChartGroup.Averages.nnz_withoutZeros {w : Nat} (h : g.Averages w kernels rows)
    (h' : g'.Averages w kernels (rows.map (·.withoutZeros reference))) : g'.nnz = g.nnz := by
  refine (List.map_inj_right fun _ _ => Option.some.inj).1 ?_
  rw [h.nnz, h'.nnz, map_nnz_withoutZeros reference rows fun n => some (Scalar.ofNat n)]

/-- Averages have the same points with gaps exactly if nothing blends. -/
theorem ChartGroup.Averages.plottedPoints_withoutZeros_iff {w : Nat} (h : g.Averages w kernels rows)
    (h' : g'.Averages w kernels (rows.map (·.withoutZeros reference)))
    (hrows : ∀ row ∈ rows, row.Conforms kernels) (hkernel : kernel ≠ reference) :
    Grid.plottedPoints g' kernel = Grid.plottedPoints g kernel ↔
      ¬ Blends w (rows.map (·.gflops kernel)) := by
  have hg := h.series kernel
  have hg' := h'.series kernel
  by_cases hmem : kernel ∈ kernels
  · rw [if_pos hmem] at hg hg'
    have hlength := h.aligned hg
    rw [plottedPoints_eq hg, plottedPoints_eq hg', h.nnz_withoutZeros h',
      map_gflops_withoutZeros rows hkernel, columnPoints_movingAverage_iff hlength.symm]
  · rw [if_neg hmem] at hg hg'
    rw [plottedPoints_eq_nil hg, plottedPoints_eq_nil hg', eq_self_iff_true, true_iff]
    -- a kernel that the rows do not list has gaps only
    refine not_blends_of_forall_none (fun value hvalue => ?_) w
    obtain ⟨row, hrow, rfl⟩ := List.mem_map.1 hvalue
    have hlisted := hrows row hrow kernel
    rw [iff_false_right hmem, Bool.not_eq_true, Option.isSome_eq_false_iff,
      Option.isNone_iff_eq_none] at hlisted
    rw [Observation.gflops, hlisted]
    rfl

end Charts

namespace Table

/-! ## The tables -/

variable (t : Table α) (s : Selection)

/-- With the chosen window, something blends among the results of a kernel at a width. -/
def Blends (k : Nat) (kernel : Kernel) : Prop :=
  ∃ w, s.window = some w ∧
    KernelCharts.Blends w (((t.clean s).rowsAt k).map (·.gflops kernel))

/-- Zeros may be exchanged for gaps: the charts have the same widths and numbers of nonzeros, and
the same points of every kernel but the reference. -/
structure ZerosAreGaps : Prop where
  nnz : ((t.withoutZeros s.reference).normalize s).groups.map (fun g => (g.k, g.nnz)) =
    (t.normalize s).groups.map fun g => (g.k, g.nnz)
  points : ∀ kernel, kernel ≠ s.reference →
    ((t.withoutZeros s.reference).normalize s).groups.map (Grid.plottedPoints · kernel) =
      (t.normalize s).groups.map (Grid.plottedPoints · kernel)

/-- The chart of a width with gaps for zeros differs from the one with zeros only where something
blends. -/
structure SameUpToBlends (g g' : ChartGroup α) : Prop where
  k : g'.k = g.k
  nnz : g'.nnz = g.nnz
  points : ∀ kernel, kernel ≠ s.reference →
    (Grid.plottedPoints g' kernel = Grid.plottedPoints g kernel ↔ ¬ t.Blends s g.k kernel)

variable {t s}

theorem blends_iff {w k : Nat} {kernel : Kernel} (hw : s.window = some w) :
    t.Blends s k kernel ↔ KernelCharts.Blends w (((t.clean s).rowsAt k).map (·.gflops kernel)) := by
  constructor
  · rintro ⟨w', hw', h⟩
    rw [hw, Option.some.injEq] at hw'
    exact hw' ▸ h
  · exact fun h => ⟨w, hw, h⟩

/-- Without a window nothing blends. -/
theorem not_blends_raw (h : s.window = none ∨ s.window = some 0) (k : Nat) (kernel : Kernel) :
    ¬ t.Blends s k kernel := by
  rintro ⟨w, hw, run, hrun, -⟩
  have hw0 := (of_mem_windows hrun).1
  rcases h with h | h <;> simp_all

/-- Where something blends there is a chart. -/
theorem Blends.exists_group {k : Nat} {kernel : Kernel} (h : t.Blends s k kernel) :
    ∃ g ∈ (t.normalize s).groups, g.k = k := by
  obtain ⟨w, hw, run, hrun, -⟩ := h
  obtain ⟨hw0, hle⟩ := of_mem_windows hrun
  rw [List.length_map] at hle
  obtain ⟨row, hrow⟩ := List.exists_mem_of_length_pos (Nat.lt_of_lt_of_le (by omega) hle)
  rw [rowsAt, List.mem_filter, beq_iff_eq] at hrow
  refine List.mem_map.1 ((t.mem_groups_width s k).2 ⟨mem_widths.2 ⟨row, hrow⟩, ?_⟩)
  rw [hw, groupOrSkip_window hw0, if_neg (by omega)]
  exact ⟨_, rfl⟩

variable (t s)

theorem widths_withoutZeros (reference : Kernel) : (t.withoutZeros reference).widths = t.widths := by
  unfold widths withoutZeros
  rw [List.filterMap_map]
  rfl

theorem rowsAt_withoutZeros (reference : Kernel) (k : Nat) :
    (t.withoutZeros reference).rowsAt k = (t.rowsAt k).map (·.withoutZeros reference) := by
  unfold rowsAt withoutZeros
  rw [List.filter_map]
  rfl

theorem sameUpToBlends (k : Nat) :
    Option.Rel (t.SameUpToBlends s)
      (groupOrSkip s.window k (t.clean s).kernels ((t.clean s).rowsAt k)).toOption
      (groupOrSkip s.window k (t.clean s).kernels
        (((t.clean s).rowsAt k).map (·.withoutZeros s.reference))).toOption := by
  have hrows : ∀ row ∈ (t.clean s).rowsAt k, row.Conforms (t.clean s).kernels :=
    fun row hrow => (wellFormed_derive t _).conforms row (List.mem_of_mem_filter hrow)
  by_cases hraw : s.window = none ∨ s.window = some 0
  · rw [groupOrSkip_raw hraw, groupOrSkip_raw hraw]
    have h := ChartGroup.Holds.ofRows k (t.clean s).kernels ((t.clean s).rowsAt k)
    have h' := ChartGroup.Holds.ofRows k (t.clean s).kernels
      (((t.clean s).rowsAt k).map (·.withoutZeros s.reference))
    refine .some ⟨rfl, h.nnz_withoutZeros h', fun kernel hkernel => ?_⟩
    exact iff_of_true (h.plottedPoints_withoutZeros h' hkernel) (not_blends_raw hraw _ kernel)
  · obtain ⟨w, hw⟩ : ∃ w, s.window = some w := Option.ne_none_iff_exists'.1 fun h => hraw (.inl h)
    have hw0 : w ≠ 0 := fun h => hraw (.inr (h ▸ hw))
    rw [hw, groupOrSkip_window hw0, groupOrSkip_window hw0, List.length_map]
    split
    · exact .none
    · next hle =>
      have h := ChartGroup.Averages.smoothed k (t.clean s).kernels ((t.clean s).rowsAt k) hw0
        (by omega)
      have h' := ChartGroup.Averages.smoothed k (t.clean s).kernels
        (((t.clean s).rowsAt k).map (·.withoutZeros s.reference)) hw0 (by rw [List.length_map]; omega)
      refine .some ⟨rfl, h.nnz_withoutZeros h', fun kernel hkernel => ?_⟩
      rw [h.plottedPoints_withoutZeros_iff h' hrows hkernel, blends_iff hw]
      rfl

/-- The charts with zeros and those with gaps stand side by side. -/
theorem forall₂_normalize : List.Forall₂ (t.SameUpToBlends s) (t.normalize s).groups
    ((t.withoutZeros s.reference).normalize s).groups := by
  rw [normalize_groups, normalize_groups, clean_withoutZeros, widths_withoutZeros]
  refine List.rel_filterMap (R := Eq) ?_ (List.forall₂_eq_eq_eq ▸ rfl)
  rintro k _ rfl
  have h := t.sameUpToBlends s k
  rwa [← rowsAt_withoutZeros] at h

variable {t s}

theorem map_points_eq_iff {groups groups' : List (ChartGroup α)} {kernel : Kernel}
    (h : List.Forall₂ (t.SameUpToBlends s) groups groups') (hkernel : kernel ≠ s.reference) :
    groups'.map (Grid.plottedPoints · kernel) = groups.map (Grid.plottedPoints · kernel) ↔
      ∀ g ∈ groups, ¬ t.Blends s g.k kernel := by
  induction h with
  | nil => simp
  | cons h _ ih =>
    rw [List.map_cons, List.map_cons, List.cons.injEq, h.points kernel hkernel, ih,
      List.forall_mem_cons]

theorem map_nnz_eq {groups groups' : List (ChartGroup α)}
    (h : List.Forall₂ (t.SameUpToBlends s) groups groups') :
    groups'.map (fun g => (g.k, g.nnz)) = groups.map fun g => (g.k, g.nnz) := by
  induction h with
  | nil => rfl
  | cons h _ ih => rw [List.map_cons, List.map_cons, ih, h.k, h.nnz]

variable (t s)

theorem not_zerosAreGaps {k : Nat} {kernel : Kernel} (hkernel : kernel ≠ s.reference)
    (h : t.Blends s k kernel) : ¬ t.ZerosAreGaps s := by
  intro hgaps
  obtain ⟨g, hg, rfl⟩ := h.exists_group
  exact (map_points_eq_iff (t.forall₂_normalize s) hkernel).1 (hgaps.points kernel hkernel) g hg h

/-- **Zeros may be exchanged for gaps** exactly when nothing blends. -/
theorem zerosAreGaps_iff : t.ZerosAreGaps s ↔
    ∀ k kernel, kernel ≠ s.reference → ¬ t.Blends s k kernel := by
  constructor
  · exact fun hgaps k kernel hkernel h => t.not_zerosAreGaps s hkernel h hgaps
  · intro h
    refine ⟨map_nnz_eq (t.forall₂_normalize s), fun kernel hkernel => ?_⟩
    exact (map_points_eq_iff (t.forall₂_normalize s) hkernel).2 fun g _ => h g.k kernel hkernel

/-- two matrices of one width, with a zero for the sparser one -/
def zeroThenFour : Table Float := .ofRows
  [ (⟨"a.mtx", 150000, some 32, ∅⟩ : Observation Float).record .bsmr (some 1.0) |>.record .roDe
      (some 0.0),
    (⟨"b.mtx", 160000, some 32, ∅⟩ : Observation Float).record .bsmr (some 1.0) |>.record .roDe
      (some 4.0) ]

/-- The mean of zero and four is drawn, and that of a gap and four is not. -/
theorem not_zerosAreGaps_zeroThenFour : ¬ zeroThenFour.ZerosAreGaps ⟨.bsmr, none, some 2⟩ := by
  have hsorted : zeroThenFour.rows.mergeSort (fun a b => a.nnz ≤ b.nnz) = zeroThenFour.rows :=
    List.mergeSort_of_pairwise (by decide)
  have hvalues : ((zeroThenFour.clean ⟨.bsmr, none, some 2⟩).rowsAt 32).map (·.gflops .roDe) =
      [some 0.0, some 4.0] := by
    unfold clean
    rw [hsorted]
    rfl
  refine not_zerosAreGaps _ _ (show Kernel.roDe ≠ Kernel.bsmr by decide) (k := 32) ⟨2, rfl, ?_⟩
  rw [hvalues]
  exact ⟨_, List.mem_cons_self, ⟨0.0, List.mem_cons_self, by decide⟩, 2.0, by decide, by decide⟩

end Table

end KernelCharts
