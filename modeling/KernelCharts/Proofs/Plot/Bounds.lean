import KernelCharts.Proofs.Chart.Axis
import KernelCharts.Proofs.Grid.Legend
import KernelCharts.Proofs.Grid.TickLabels
import KernelCharts.Proofs.Line.Drawing
import KernelCharts.Proofs.Line.Labels

/-!
# Points within their axes

The axes of a chart are set up from other numbers than the points that are drawn: from all numbers of nonzeros, not
only those with a measured throughput, and from the greatest of all throughputs, with exceptions for a single number and
for zeros.  Still every point that is drawn lies within them, and so does every tick that stands for something.

* `Table.nonneg_of_mem_series` — throughputs that are not negative are so when averaged;
* `headroom_pos`, `le_headroom` — the upper end of the vertical axis;
* `Grid.PanelBounds`, `Grid.panelBounds` — the axes of a panel;
* `Line.ChartBounds`, `Line.chartBounds` — the axes of a line chart;
* `Table.normalize_bounds` — the axes of all charts of a table.
-/

set_option linter.unusedSectionVars false

namespace KernelCharts

variable {K : Type} [Field K] [LinearOrder K] [IsStrictOrderedRing K] [FloorRing K]

/-! ## Throughputs -/

/-- The throughputs of the rows of a table are not negative. -/
def Table.Nonneg (t : Table K) : Prop := ∀ row ∈ t.rows, ∀ kernel y, row.gflops kernel = some y → 0 ≤ y

theorem nonneg_of_mem_rowsAt_clean {t : Table K} (h : t.Nonneg) {s : Selection} {k : ℕ} {kernel : Kernel} {y : K}
    (hy : some y ∈ ((t.clean s).rowsAt k).map (·.gflops kernel)) : 0 ≤ y := by
  obtain ⟨row, hrow, hgflops⟩ := List.mem_map.1 hy
  obtain ⟨measured, hmeasured, rfl⟩ := Table.exists_conform_of_mem_rowsAt_clean hrow
  rw [Observation.gflops_conform] at hgflops
  split at hgflops
  · exact h measured hmeasured kernel y hgflops
  · cases hgflops

theorem runMean_nonneg {w : ℕ} {run : List (Option K)} (h : ∀ y, some y ∈ run → 0 ≤ y) {y : K}
    (hy : @runMean K (.exact K) w run = some y) : 0 ≤ y := by
  by_cases hgap : none ∈ run
  · rw [@runMean_eq_none K (.exact K) w run hgap] at hy
    cases hy
  · obtain ⟨values, rfl⟩ := exists_map_some hgap
    rw [@runMean_map_some K (.exact K), Option.some_inj] at hy
    have hsum : 0 ≤ values.sum := List.sum_nonneg fun value hvalue => h value (List.mem_map_of_mem hvalue)
    rw [← hy]
    show 0 ≤ values.foldl (· + ·) 0 / ((w : ℤ) : K)
    rw [← List.sum_eq_foldl]
    positivity

/-- **The throughputs of a chart are not negative**, as they are or averaged. -/
theorem Table.nonneg_of_mem_series {t : Table K} (h : t.Nonneg) {s : Selection} {g : ChartGroup K}
    (hg : g ∈ (@normalize K (.exact K) t s).groups) {kernel : Kernel} {values : List (Option K)}
    (hvalues : g.series.get? kernel = some values) {y : K} (hy : some y ∈ values) : 0 ≤ y := by
  rcases @group_cases K (.exact K) t s g hg with ⟨-, hraw⟩ | ⟨w, -, -, -, haverages⟩
  · rw [@ChartGroup.Holds.series K (.exact K) _ _ _ hraw] at hvalues
    split at hvalues <;> cases hvalues
    exact nonneg_of_mem_rowsAt_clean h hy
  · rw [@ChartGroup.Averages.series K (.exact K) _ _ _ _ haverages] at hvalues
    split at hvalues <;> cases hvalues
    rw [@movingAverage_eq_map K (.exact K), List.mem_map] at hy
    obtain ⟨run, hrun, hmean⟩ := hy
    exact runMean_nonneg (fun y hy => nonneg_of_mem_rowsAt_clean h (mem_of_mem_windows hrun hy)) hmean

/-! ## The vertical axis -/

theorem greatest_exact (values : List K) : @greatest K (.exact K) values = values.foldl max 0 := by
  have hzero : (0.0 : K) = 0 := by norm_num
  rw [← hzero]
  rfl

theorem isGreatest_greatest (values : List K) : IsGreatest {y | y ∈ 0 :: values} (@greatest K (.exact K) values) := by
  rw [greatest_exact]
  exact isGreatest_foldl_max 0 values

theorem headroom_exact (values : List K) : @headroom K (.exact K) values =
    if 0 < @greatest K (.exact K) values then @greatest K (.exact K) values * 1.05 else 1 := by
  have hzero : (0.0 : K) = 0 := by norm_num
  have hone : (1.0 : K) = 1 := by norm_num
  have hunfold : @headroom K (.exact K) values =
      if 0.0 < @greatest K (.exact K) values then @greatest K (.exact K) values * 1.05 else 1.0 := rfl
  rw [hunfold, hzero, hone]

theorem headroom_pos (values : List K) : 0 < @headroom K (.exact K) values := by
  rw [headroom_exact]
  split
  · positivity
  · exact one_pos

theorem le_headroom {values : List K} {y : K} (hy : y ∈ values) : y ≤ @headroom K (.exact K) values := by
  have hle : y ≤ @greatest K (.exact K) values :=
    (isGreatest_greatest values).2 (List.mem_cons_of_mem 0 hy)
  rw [headroom_exact]
  split
  · norm_num
    linarith
  · linarith

/-! ## Panels -/

namespace Grid

/-- The points of a panel lie within its axes, and so do all ticks between the least and the greatest number of
nonzeros. -/
structure PanelBounds (cut : ℤ → ℤ → K → ℤ) (g : ChartGroup K) (lo hi : K) : Prop where
  least : IsLeast {x | x ∈ g.nnz} lo
  greatest : IsGreatest {x | x ∈ g.nnz} hi
  axis : @xAxis K (.exactWith K cut) g =
    ⟨lo - padding lo hi, hi + padding lo hi, @niceTicks K (.exactWith K cut) lo hi xTicks false⟩
  wide : lo - padding lo hi < hi + padding lo hi
  high : 0 < @highest K (.exactWith K cut) g
  points : ∀ series ∈ @drawn K (.exactWith K cut) g, ∀ p ∈ series.2,
    lo - padding lo hi ≤ p.1 ∧ p.1 ≤ hi + padding lo hi ∧ 0 ≤ p.2 ∧ p.2 ≤ @highest K (.exactWith K cut) g

section

variable {t : Table K} {s : Selection} {g : ChartGroup K} (hg : g ∈ (@Table.normalize K (.exact K) t s).groups)

include hg

/-- The points of a series are numbers of nonzeros of the panel and throughputs that are not negative. -/
theorem point_of_mem_drawn (h : t.Nonneg) {series : Kernel × List (K × K)} (hseries : series ∈ @drawn K (.exact K) g)
    {p : K × K} (hp : p ∈ series.2) : p.1 ∈ g.nnz ∧ 0 ≤ p.2 ∧ p.2 ≤ @highest K (.exact K) g := by
  have htop : p.2 ≤ @highest K (.exact K) g :=
    le_headroom (List.mem_flatMap.2 ⟨series, hseries, List.mem_map_of_mem hp⟩)
  obtain ⟨hlisted, -⟩ := List.mem_filter.1 hseries
  obtain ⟨kernel, -, rfl⟩ := List.mem_map.1 hlisted
  obtain ⟨values, hvalues, hzip, -⟩ := (@mem_plottedPoints K (.exact K) g kernel p.1 p.2).1 hp
  obtain ⟨hx, hy⟩ := List.of_mem_zip hzip
  exact ⟨hx, Table.nonneg_of_mem_series h hg hvalues hy, htop⟩

/-- **The axes of a panel** have room for all points and ticks, if the ticks can be numbered. -/
theorem panelBounds (h : t.Nonneg) {cut : ℤ → ℤ → K → ℤ} {lo hi : K}
    (hext : @extremes? K (.exact K) g.nnz = some (lo, hi)) (hspans : Spans {x | x ∈ g.nnz} (lo, hi))
    (hnumbers : KeepsNumbers cut lo hi) : PanelBounds cut g lo hi := by
  have hpad := padding_pos lo hi
  constructor
  case least => exact hspans.least
  case greatest => exact hspans.greatest
  case axis =>
    rw [xAxis_exactWith cut hext, List.filter_eq_self.2]
    exact fun tick htick => decide_eq_true (niceTicks_within hspans.le hnumbers tick htick)
  case wide => linarith [hspans.le]
  case high => exact headroom_pos _
  case points =>
    intro series hseries p hp
    obtain ⟨hx, hnonneg, htop⟩ := point_of_mem_drawn hg h hseries hp
    have hlow : lo ≤ p.1 := hspans.least.2 hx
    have hhigh : p.1 ≤ hi := hspans.greatest.2 hx
    exact ⟨by linarith, by linarith, hnonneg, htop⟩

end

end Grid

/-! ## Line charts -/

namespace Line

/-- The points of a line chart lie within its axes, and the ticks are categories; a tick that is dropped stands for
none. -/
structure ChartBounds (cut : ℤ → ℤ → K → ℤ) (g : ChartGroup K) : Prop where
  start : (@categoryAxis K (.exactWith K cut) g).start = -(1 / 2)
  stop : (@categoryAxis K (.exactWith K cut) g).stop = g.nnz.length - 1 / 2
  wide : -(1 / 2) < (g.nnz.length : K) - 1 / 2
  high : 0 < @highest K (.exactWith K cut) g
  points : ∀ series ∈ @drawn K (.exactWith K cut) g, ∀ run ∈ series.2, ∀ p ∈ run,
    -(1 / 2) ≤ p.1 ∧ p.1 ≤ g.nnz.length - 1 / 2 ∧ 0 ≤ p.2 ∧ p.2 ≤ @highest K (.exactWith K cut) g
  categories : ∀ tick ∈ (@categoryAxis K (.exactWith K cut) g).ticks, ∃ c < g.nnz.length, tick = (c : ℕ)
  kept : ∀ tick ∈ @niceTicks K (.exactWith K cut) 0 ((g.nnz.length - 1 : ℕ) : K) maxTicks true,
    tick ∈ (@categoryAxis K (.exactWith K cut) g).ticks ∨ (g.nnz.length : K) ≤ tick

/-- The ticks that are asked for stand at natural numbers. -/
theorem natCast_of_mem_niceTicks {cut : ℤ → ℤ → K → ℤ}
    (hzero : @Scalar.toInt64 K (.exactWith K cut) ((0 : ℤ) : K) = 0) (n : ℕ) :
    ∀ tick ∈ @niceTicks K (.exactWith K cut) 0 ((n - 1 : ℕ) : K) maxTicks true, ∃ c : ℕ, tick = c := by
  intro tick htick
  rcases Nat.lt_or_ge n 2 with hfew | hseveral
  · rw [show n - 1 = 0 by omega, Nat.cast_zero, niceTicks_exactWith_self, List.mem_singleton] at htick
    exact ⟨0, by rw [htick, Nat.cast_zero]⟩
  · have hspan : (0 : K) < ((n - 1 : ℕ) : K) := by
      rw [Nat.cast_pos]
      omega
    obtain ⟨step, hstep, -⟩ := exists_spanStep_eq_natCast (K := K) hseveral
    rw [niceTicks_exactWith hspan (by decide), hstep, zero_div, Int.ceil_zero, hzero, mem_multiples] at htick
    obtain ⟨i, hfirst, -, rfl⟩ := htick
    obtain ⟨i, rfl⟩ := Int.eq_ofNat_of_zero_le hfirst
    exact ⟨i * step, by push_cast; rfl⟩

section

variable {t : Table K} {s : Selection} {g : ChartGroup K} (hg : g ∈ (@Table.normalize K (.exact K) t s).groups)

include hg

/-- The points of a series stand at categories, and are throughputs that are not negative. -/
theorem point_of_mem_drawn (h : t.Nonneg) {series : Kernel × List (List (K × K))}
    (hseries : series ∈ @drawn K (.exact K) g) {run : List (K × K)} (hrun : run ∈ series.2) {p : K × K}
    (hp : p ∈ run) : (∃ c < g.nnz.length, p.1 = (c : ℕ)) ∧ 0 ≤ p.2 ∧ p.2 ≤ @highest K (.exact K) g := by
  obtain ⟨hlisted, -⟩ := List.mem_filter.1 hseries
  obtain ⟨⟨kernel, values⟩, hentry, rfl⟩ := List.mem_map.1 hlisted
  have hvalues : g.series.get? kernel = some values := by
    obtain ⟨named, -, hnamed⟩ := List.mem_filterMap.1 hentry
    obtain ⟨column, hcolumn, heq⟩ := Option.map_eq_some_iff.1 hnamed
    cases heq
    exact hcolumn
  obtain ⟨c, y, hy, rfl⟩ := (@mem_flatten_segments K (.exact K) values p).1 (List.mem_flatten.2 ⟨run, hrun, hp⟩)
  have hmem : some y ∈ values := List.mem_of_getElem? hy
  have hlength : values.length = g.nnz.length := @Table.length_of_mem_groups K (.exact K) t s g hg kernel values hvalues
  have hc : c < values.length := (List.getElem?_eq_some_iff.1 hy).1
  have htop : y ≤ @highest K (.exact K) g :=
    le_headroom (List.mem_flatMap.2 ⟨(kernel, values), hentry, List.mem_filterMap.2 ⟨some y, hmem, rfl⟩⟩)
  exact ⟨⟨c, hlength ▸ hc, Int.cast_natCast c⟩, Table.nonneg_of_mem_series h hg hvalues hmem, htop⟩

/-- **The axes of a line chart** have room for all points, and for the ticks of all categories. -/
theorem chartBounds (h : t.Nonneg) {cut : ℤ → ℤ → K → ℤ}
    (hzero : @Scalar.toInt64 K (.exactWith K cut) ((0 : ℤ) : K) = 0) : ChartBounds cut g := by
  have hpos : 1 ≤ g.nnz.length := List.length_pos_of_ne_nil (@Table.nnz_ne_nil K (.exact K) t s g hg)
  have hlast : ((g.nnz.length - 1 : ℕ) : K) = g.nnz.length - 1 := by rw [Nat.cast_sub hpos, Nat.cast_one]
  have hmany : (1 : K) ≤ g.nnz.length := by exact_mod_cast hpos
  -- a category stands half a category away from both ends, or more
  have hroom : ∀ c < g.nnz.length, -(1 / 2) ≤ (c : K) ∧ (c : K) ≤ g.nnz.length - 1 / 2 := by
    intro c hc
    have hlow : (0 : K) ≤ c := Nat.cast_nonneg c
    have hhigh : (c : K) + 1 ≤ g.nnz.length := by exact_mod_cast hc
    constructor <;> linarith
  constructor
  case start => exact (categoryAxis_ends hpos).1
  case stop => exact (categoryAxis_ends hpos).2
  case wide => linarith
  case high => exact headroom_pos _
  case points =>
    intro series hseries run hrun p hp
    obtain ⟨⟨c, hc, hx⟩, hnonneg, htop⟩ := point_of_mem_drawn hg h hseries hrun hp
    obtain ⟨hlow, hhigh⟩ := hroom c hc
    rw [hx]
    exact ⟨hlow, hhigh, hnonneg, htop⟩
  case categories =>
    intro tick htick
    obtain ⟨hmem, -, hhigh⟩ := (mem_ticks_categoryAxis cut).1 htick
    obtain ⟨c, rfl⟩ := natCast_of_mem_niceTicks hzero _ tick hmem
    refine ⟨c, ?_, rfl⟩
    have hlt : (c : K) < g.nnz.length := by linarith
    exact_mod_cast hlt
  case kept =>
    intro tick htick
    obtain ⟨c, rfl⟩ := natCast_of_mem_niceTicks hzero _ tick htick
    rcases Nat.lt_or_ge c g.nnz.length with hc | hc
    · obtain ⟨hlow, hhigh⟩ := hroom c hc
      exact .inl ((mem_ticks_categoryAxis cut).2 ⟨htick, hlow, by linarith⟩)
    · exact .inr (by exact_mod_cast hc)

end

end Line

/-! ## The charts of a table -/

/-- **No point that is drawn falls outside its axes**, in exact arithmetic, and no tick that stands for something is
dropped.  If the numbers of ticks are held within 64 bits, those of the panel have to fit. -/
theorem Table.normalize_bounds {t : Table K} (h : t.Nonneg) {s : Selection} {g : ChartGroup K}
    (hg : g ∈ (@normalize K (.unbounded K) t s).groups) :
    (∃ lo hi, Grid.PanelBounds (Scalar.unbounded K).truncate g lo hi ∧
      ((lo < hi → SpanFits lo hi Grid.xTicks false) → Grid.PanelBounds (Scalar.exact K).truncate g lo hi)) ∧
    Line.ChartBounds (Scalar.unbounded K).truncate g ∧ Line.ChartBounds (Scalar.exact K).truncate g := by
  have hg : g ∈ (@normalize K (.exact K) t s).groups := hg
  obtain ⟨⟨lo, hi⟩, hext, hspans⟩ := Grid.extremes?_exact (@nnz_ne_nil K (.exact K) t s g hg)
  refine ⟨⟨lo, hi, ?_, fun hfits => ?_⟩, ?_, ?_⟩
  · exact Grid.panelBounds hg h hext hspans (Grid.keepsNumbers_unbounded lo hi)
  · exact Grid.panelBounds hg h hext hspans (Grid.keepsNumbers_exact hfits)
  · exact Line.chartBounds hg h (Scalar.toInt64_unbounded 0)
  · exact Line.chartBounds hg h (Scalar.toInt64_exact (by decide))

theorem Table.normalize_bounds_twoMatrices : (twoMatrices 150000 154000).Nonneg ∧
    ∃ g ∈ (@normalize ℚ (.unbounded ℚ) (twoMatrices 150000 154000) gridBounds).groups, g.nnz = [150000, 154000] ∧
      (∃ lo hi, Grid.PanelBounds (Scalar.unbounded ℚ).truncate g lo hi ∧
        ((lo < hi → SpanFits lo hi Grid.xTicks false) → Grid.PanelBounds (Scalar.exact ℚ).truncate g lo hi)) ∧
      Line.ChartBounds (Scalar.unbounded ℚ).truncate g ∧ Line.ChartBounds (Scalar.exact ℚ).truncate g := by
  have hrows : ∀ row ∈ (twoMatrices 150000 154000).rows, ∀ kernel ∈ Kernel.all, ∀ y ∈ row.gflops kernel, 0 ≤ y := by
    decide +kernel
  have hnonneg : (twoMatrices 150000 154000).Nonneg := fun row hrow kernel y =>
    hrows row hrow kernel (Kernel.mem_all kernel) y
  have hgroups : (@normalize ℚ (.unbounded ℚ) (twoMatrices 150000 154000) gridBounds).groups.map (·.nnz) =
      [[150000, 154000]] := by
    unfold normalize clean
    rw [mergeSort_twoMatrices (by decide)]
    decide +kernel
  obtain ⟨g, hg, hnnz⟩ := List.mem_map.1 (hgroups ▸ List.mem_cons_self)
  exact ⟨hnonneg, g, hg, hnnz, normalize_bounds hnonneg hg⟩

end KernelCharts
