import KernelCharts.Grid.Figure
import KernelCharts.Proofs.Chart.Ascending
import KernelCharts.Proofs.Chart.Separation
import KernelCharts.Proofs.Chart.Ticks
import Mathlib.Order.Bounds.Basic

/-!
# Labels of the ticks of a panel

The ticks of a panel stand at nice distances, which may be fractions, and their labels are whole numbers.  So labels
tell the ticks apart if and only if the distance is at least one, which is decided by the span of the panel.

* `nodup_labels_multiples`, `not_nodup_labels_multiples` — labels at distances of at least one, and of a half at most;
* `Grid.extremes?_exact` — the ends of the span;
* `Grid.xAxis_exactWith`, `Grid.niceTicks_within` — the axis of a panel, and its ticks;
* `Grid.Wide`, `Grid.nodup_tickLabels`, `Grid.wide_of_nodup_tickLabels` — the panels whose labels tell their ticks
  apart;
* `Table.tickLabels_normalize` — the same of the panels of a table.
-/

set_option linter.unusedSectionVars false

namespace KernelCharts

variable {K : Type} [Field K] [LinearOrder K] [IsStrictOrderedRing K] [FloorRing K]

/-! ## Labels of multiples -/

/-- the multiple of a distance that comes `i` places after the one with number `first` -/
def multipleAfter (s : K) (first : ℤ) (i : ℕ) : K := ((first + i : ℤ) : K) * s

theorem multiples_exact (s : K) (first last : ℤ) : @multiples K (.exact K) s first last =
    (List.range (last + 1 - first).toNat).map (multipleAfter s first) := rfl

section MultipleAfter

variable {s : K} {first : ℤ} (hfirst : 0 ≤ first)

theorem multipleAfter_succ (s : K) (first : ℤ) (i : ℕ) :
    multipleAfter s first (i + 1) = multipleAfter s first i + s := by
  unfold multipleAfter
  push_cast
  ring

include hfirst

theorem multipleAfter_nonneg (hs : 0 < s) (i : ℕ) : 0 ≤ multipleAfter s first i := by
  have hplace : (0 : K) ≤ (first + i : ℤ) := by exact_mod_cast (by omega : 0 ≤ first + i)
  exact mul_nonneg hplace hs.le

/-- Multiples of one, or of a distance of at least two, are rounded to different numbers. -/
theorem roundEven_multipleAfter_lt (hs : s = 1 ∨ 2 ≤ s) (i : ℕ) :
    roundEven (multipleAfter s first i) < roundEven (multipleAfter s first (i + 1)) := by
  rcases hs with rfl | hs
  · obtain ⟨n, rfl⟩ := Int.eq_ofNat_of_zero_le hfirst
    have hround : ∀ i : ℕ, roundEven (multipleAfter (1 : K) n i) = n + i := fun i => by
      rw [multipleAfter, mul_one, ← Nat.cast_add, Int.cast_natCast, roundEven_natCast]
    rw [hround, hround]
    omega
  · refine roundEven_lt (multipleAfter_nonneg hfirst (by linarith) i) ?_
    rw [multipleAfter_succ]
    linarith

/-- Of five multiples of a distance of at most a half, two neighbours are rounded to one number. -/
theorem exists_roundEven_eq (hs : 0 < s) (hhalf : s ≤ 1 / 2) :
    ∃ i < 4, roundEven (multipleAfter s first i) = roundEven (multipleAfter s first (i + 1)) := by
  by_contra hne
  have hnonneg : ∀ i, 0 ≤ multipleAfter s first i := multipleAfter_nonneg hfirst hs
  have hlt : ∀ i < 4, roundEven (multipleAfter s first i) < roundEven (multipleAfter s first (i + 1)) := by
    intro i hi
    have hle : multipleAfter s first i ≤ multipleAfter s first (i + 1) := by
      rw [multipleAfter_succ]
      linarith
    exact lt_of_le_of_ne (roundEven_mono (hnonneg i) hle) fun heq => hne ⟨i, hi, heq⟩
  -- four steps up are at least four, but the first and the last of the multiples are at most two apart
  have hfour : roundEven (multipleAfter s first 0) + 4 ≤ roundEven (multipleAfter s first 4) := by
    have h0 : roundEven (multipleAfter s first 0) < roundEven (multipleAfter s first 1) := hlt 0 (by decide)
    have h1 : roundEven (multipleAfter s first 1) < roundEven (multipleAfter s first 2) := hlt 1 (by decide)
    have h2 : roundEven (multipleAfter s first 2) < roundEven (multipleAfter s first 3) := hlt 2 (by decide)
    have h3 : roundEven (multipleAfter s first 3) < roundEven (multipleAfter s first 4) := hlt 3 (by decide)
    omega
  have hfour : (roundEven (multipleAfter s first 0) : K) + 4 ≤ roundEven (multipleAfter s first 4) := by
    exact_mod_cast hfour
  have hlow := (roundEven_bounds (hnonneg 0)).2
  have hhigh := (roundEven_bounds (hnonneg 4)).1
  have hapart : multipleAfter s first 4 = multipleAfter s first 0 + 4 * s := by
    simp only [multipleAfter_succ s first]
    ring
  linarith

theorem nodup_labels_multiples (hs : s = 1 ∨ 2 ≤ s) (last : ℤ) :
    ((@multiples K (.exact K) s first last).map (Scalar.exact K).wholeText).Nodup := by
  have hpos : 0 < s := by rcases hs with rfl | hs <;> linarith
  have hmono : StrictMono fun i => roundEven (multipleAfter s first i) :=
    strictMono_nat_of_lt_succ (roundEven_multipleAfter_lt hfirst hs)
  rw [multiples_exact, List.map_map]
  refine List.pairwise_map.2 (List.pairwise_lt_range.imp fun {i j} hij hsame => ?_)
  have heq := (Scalar.wholeText_inj (multipleAfter_nonneg hfirst hpos i) (multipleAfter_nonneg hfirst hpos j)).1 hsame
  exact (hmono hij).ne heq

theorem not_nodup_labels_multiples (hs : 0 < s) (hhalf : s ≤ 1 / 2) {last : ℤ} (hlast : first + 4 ≤ last) :
    ¬ ((@multiples K (.exact K) s first last).map (Scalar.exact K).wholeText).Nodup := by
  intro hnodup
  obtain ⟨i, hi, heq⟩ := exists_roundEven_eq hfirst hs hhalf
  have hmem : ∀ i ≤ 4, multipleAfter s first i ∈ @multiples K (.exact K) s first last := fun i hi =>
    mem_multiples.2 ⟨first + i, by omega, by omega, rfl⟩
  have hsame := (Scalar.wholeText_inj (multipleAfter_nonneg hfirst hs i) (multipleAfter_nonneg hfirst hs (i + 1))).2 heq
  have hequal := List.inj_on_of_nodup_map hnodup (hmem i (by omega)) (hmem (i + 1) (by omega)) hsame
  rw [multipleAfter_succ] at hequal
  linarith

end MultipleAfter

namespace Grid

/-! ## Extremes -/

/-- The pair has the least and the greatest of some numbers. -/
structure Spans (values : Set K) (pair : K × K) : Prop where
  least : IsLeast values pair.1
  greatest : IsGreatest values pair.2

theorem Spans.union {s t : Set K} {e p : K × K} (hs : Spans s e) (ht : Spans t p) :
    Spans (s ∪ t) (e.1 ⊓ p.1, e.2 ⊔ p.2) := ⟨hs.least.union ht.least, hs.greatest.union ht.greatest⟩

theorem Spans.le {s : Set K} {e : K × K} (h : Spans s e) : e.1 ≤ e.2 := h.least.2 h.greatest.1

theorem spans_singleton (x : K) : Spans {x} (x, x) := ⟨isLeast_singleton, isGreatest_singleton⟩

theorem ordered_exact (x y : K) : @ordered K (.exact K) x y = (x ⊓ y, x ⊔ y) := by
  have hunfold : @ordered K (.exact K) x y = if y < x then (y, x) else (x, y) := rfl
  rw [hunfold]
  split
  case isTrue h => rw [min_eq_right h.le, max_eq_left h.le]
  case isFalse h => rw [min_eq_left (not_lt.1 h), max_eq_right (not_lt.1 h)]

theorem widen_exact (e p : K × K) : @widen K (.exact K) e p = (e.1 ⊓ p.1, e.2 ⊔ p.2) := by
  have hunfold : @widen K (.exact K) e p = (if p.1 < e.1 then p.1 else e.1, if p.2 < e.2 then e.2 else p.2) := rfl
  rw [hunfold, ← min_def_lt, ← max_def_lt, min_comm, max_comm]

/-- The last number that is left without a partner. -/
theorem extremesFrom_singleton {e : K × K} (h : e.1 ≤ e.2) (x : K) :
    @extremesFrom K (.exact K) e [x] = (e.1 ⊓ x, e.2 ⊔ x) := by
  have hunfold : @extremesFrom K (.exact K) e [x] =
      if x < e.1 then (x, e.2) else if x < e.2 then e else (e.1, x) := rfl
  rw [hunfold]
  split
  case isTrue hlow => rw [min_eq_right hlow.le, max_eq_left (hlow.le.trans h)]
  case isFalse hlow =>
    rw [min_eq_left (not_lt.1 hlow)]
    split
    case isTrue hhigh => rw [max_eq_left hhigh.le]
    case isFalse hhigh => rw [max_eq_right (not_lt.1 hhigh)]

theorem spans_ordered (x y : K) : Spans ({x} ∪ {y}) (@ordered K (.exact K) x y) := by
  rw [ordered_exact]
  exact (spans_singleton x).union (spans_singleton y)

theorem setOf_mem_singleton (x : K) : {z | z ∈ [x]} = ({x} : Set K) := by
  ext z
  exact List.mem_singleton

theorem setOf_mem_cons_cons (x y : K) (rest : List K) :
    {z | z ∈ x :: y :: rest} = {x} ∪ {y} ∪ {z | z ∈ rest} := by
  ext z
  simp only [List.mem_cons, Set.mem_union, Set.mem_singleton_iff, Set.mem_ofPred_eq, or_assoc]

/-- The extremes are widened to those of all numbers so far. -/
theorem spans_extremesFrom {s : Set K} {e : K × K} (h : Spans s e) :
    ∀ rest : List K, Spans (s ∪ {x | x ∈ rest}) (@extremesFrom K (.exact K) e rest)
  | [] => by simpa [extremesFrom] using h
  | [x] => by
    rw [setOf_mem_singleton, extremesFrom_singleton h.le]
    exact h.union (spans_singleton x)
  | x :: y :: rest => by
    have hpair : Spans (s ∪ ({x} ∪ {y})) (@widen K (.exact K) e (@ordered K (.exact K) x y)) := by
      rw [widen_exact]
      exact h.union (spans_ordered x y)
    have hset : s ∪ {z | z ∈ x :: y :: rest} = s ∪ ({x} ∪ {y}) ∪ {z | z ∈ rest} := by
      rw [setOf_mem_cons_cons, ← Set.union_assoc]
    rw [hset]
    exact spans_extremesFrom hpair rest

theorem extremes?_exact {values : List K} (hne : values ≠ []) :
    ∃ pair, @extremes? K (.exact K) values = some pair ∧ Spans {x | x ∈ values} pair := by
  match values with
  | [x] =>
    exact ⟨(x, x), rfl, setOf_mem_singleton x ▸ spans_singleton x⟩
  | x :: y :: rest =>
    refine ⟨_, rfl, ?_⟩
    rw [setOf_mem_cons_cons]
    exact spans_extremesFrom (spans_ordered x y) rest

theorem extremesFrom_exactWith (cut : ℤ → ℤ → K → ℤ) (e : K × K) :
    ∀ rest, @extremesFrom K (.exactWith K cut) e rest = @extremesFrom K (.exact K) e rest
  | [] => rfl
  | [_] => rfl
  | _ :: _ :: rest => extremesFrom_exactWith cut _ rest

theorem extremes?_exactWith (cut : ℤ → ℤ → K → ℤ) :
    ∀ values, @extremes? K (.exactWith K cut) values = @extremes? K (.exact K) values
  | [] => rfl
  | [_] => rfl
  | _ :: _ :: rest => congrArg some (extremesFrom_exactWith cut _ rest)

/-! ## The axis of a panel -/

/-- how far the axis of a panel goes beyond its points, on each side -/
def padding (lo hi : K) : K := if lo < hi then (hi - lo) / 50 else 1

theorem padding_pos (lo hi : K) : 0 < padding lo hi := by
  unfold padding
  split
  · linarith
  · exact one_pos

/-- The numbers of the first and the last tick of a panel are whole parts of themselves, however these are cut out. -/
def KeepsNumbers (cut : ℤ → ℤ → K → ℤ) (lo hi : K) : Prop := lo < hi →
  @Scalar.toInt64 K (.exactWith K cut) ⌈lo / spanStep lo hi xTicks false⌉ = ⌈lo / spanStep lo hi xTicks false⌉ ∧
    @Scalar.toInt64 K (.exactWith K cut) ⌊hi / spanStep lo hi xTicks false + 1e-9⌋ =
      ⌊hi / spanStep lo hi xTicks false + 1e-9⌋

theorem keepsNumbers_unbounded (lo hi : K) : KeepsNumbers (Scalar.unbounded K).truncate lo hi :=
  fun _ => ⟨Scalar.toInt64_unbounded _, Scalar.toInt64_unbounded _⟩

theorem keepsNumbers_exact {lo hi : K} (hfits : lo < hi → SpanFits lo hi xTicks false) :
    KeepsNumbers (Scalar.exact K).truncate lo hi :=
  fun hspan => ⟨Scalar.toInt64_exact (hfits hspan).1, Scalar.toInt64_exact (hfits hspan).2⟩

/-- All ticks of a panel lie between its extremes, a rounding error apart. -/
theorem niceTicks_within {cut : ℤ → ℤ → K → ℤ} {lo hi : K} (hle : lo ≤ hi) (hnumbers : KeepsNumbers cut lo hi) :
    ∀ tick ∈ @niceTicks K (.exactWith K cut) lo hi xTicks false,
      lo - padding lo hi ≤ tick ∧ tick ≤ hi + padding lo hi := by
  intro tick htick
  have hpad := padding_pos lo hi
  rcases hle.eq_or_lt with rfl | hspan
  · rw [niceTicks_exactWith_self, List.mem_singleton] at htick
    subst htick
    constructor <;> linarith
  · have hbins : 1 ≤ xTicks := by decide
    obtain ⟨hfirst, hlast⟩ := hnumbers hspan
    rw [niceTicks_exactWith hspan hbins, hfirst, hlast, mem_multiples_span hspan hbins] at htick
    obtain ⟨hlow, hhigh, -⟩ := htick
    have hstep : spanStep lo hi xTicks false < 2 * ((hi - lo) / 10) := spanStep_lt hspan hbins
    refine ⟨by linarith, ?_⟩
    rw [padding, if_pos hspan]
    norm_num at hhigh ⊢
    linarith

theorem xAxis_exactWith (cut : ℤ → ℤ → K → ℤ) {g : ChartGroup K} {lo hi : K}
    (hext : @extremes? K (.exact K) g.nnz = some (lo, hi)) : @xAxis K (.exactWith K cut) g =
      ⟨lo - padding lo hi, hi + padding lo hi, (@niceTicks K (.exactWith K cut) lo hi xTicks false).filter
        fun tick => decide (lo - padding lo hi ≤ tick ∧ tick ≤ hi + padding lo hi)⟩ := by
  have hpair : @xExtremes K (.exactWith K cut) g = (lo, hi) := by
    unfold xExtremes
    rw [extremes?_exactWith, hext, Option.getD_some]
  have hpad : (if lo < hi then (hi - lo) * 0.02 else 1.0) = padding lo hi := by
    unfold padding
    split <;> norm_num
    ring
  unfold xAxis
  rw [hpair, ← hpad]
  rfl

/-! ## Panels -/

/-- The numbers from `lo` to `hi` are one, or far enough apart for ticks at a distance of at least one. -/
def Wide (lo hi : K) : Prop := lo = hi ∨ ((5 : ℕ) : K) < (hi - lo) * (1 - 1e-9)

section Panel

variable {g : ChartGroup K} {lo hi : K} (hext : @extremes? K (.exact K) g.nnz = some (lo, hi))

include hext

/-- The labels are those of the ticks that lie on the axis. -/
theorem tickLabels_exact : @tickLabels K (.exact K) g =
    ((@niceTicks K (.exact K) lo hi xTicks false).filter fun tick =>
      decide (lo - padding lo hi ≤ tick ∧ tick ≤ hi + padding lo hi)).map (Scalar.exact K).wholeText :=
  congrArg (fun axis => axis.ticks.map (Scalar.exact K).wholeText) (xAxis_exactWith (Scalar.exact K).truncate hext)

theorem tickLabels_sublist : (@tickLabels K (.exact K) g).Sublist
    ((@niceTicks K (.exact K) lo hi xTicks false).map (Scalar.exact K).wholeText) := by
  rw [tickLabels_exact hext]
  exact List.filter_sublist.map _

/-- All ticks of a span lie on its axis. -/
theorem tickLabels_eq (hspan : lo < hi) (hfits : SpanFits lo hi xTicks false) : @tickLabels K (.exact K) g =
    (@niceTicks K (.exact K) lo hi xTicks false).map (Scalar.exact K).wholeText := by
  have hwithin := niceTicks_within hspan.le (keepsNumbers_exact fun _ => hfits)
  rw [tickLabels_exact hext, List.filter_eq_self.2]
  exact fun tick htick => decide_eq_true (hwithin tick htick)

/-- **The labels of a wide panel tell its ticks apart.** -/
theorem nodup_tickLabels (hlo : 0 ≤ lo) (hle : lo ≤ hi) (hwide : Wide lo hi) :
    (@tickLabels K (.exact K) g).Nodup := by
  refine List.Nodup.sublist (tickLabels_sublist hext) ?_
  rcases hwide with rfl | hwide
  · rw [niceTicks_self]
    exact List.nodup_singleton _
  have hspan : lo < hi := by
    refine lt_of_le_of_ne hle ?_
    rintro rfl
    norm_num at hwide
  have hstep : IsLeast (distances ((hi - lo) / 10) false) (spanStep lo hi xTicks false) :=
    isLeast_spanStep hspan (by decide)
  have hhalf : 1 / 2 < spanStep lo hi xTicks false := by
    refine lt_of_lt_of_le ?_ hstep.1.2.2
    unfold tolerated
    push_cast at hwide
    linarith
  rw [niceTicks_eq_multiples hspan (by decide)]
  refine nodup_labels_multiples ?_ (hstep.1.1.eq_one_or_two_le hhalf) _
  have hfirst : (0 : ℤ) ≤ ⌈lo / spanStep lo hi xTicks false⌉ :=
    Int.ceil_nonneg (div_nonneg hlo (by linarith))
  exact Scalar.toInt64_nonneg (Int.cast_nonneg hfirst)

/-- **The labels of any other panel do not**, unless its ticks are too many to be numbered. -/
theorem wide_of_nodup_tickLabels (hlo : 0 ≤ lo) (hle : lo ≤ hi) (hfits : SpanFits lo hi xTicks false)
    (hnodup : (@tickLabels K (.exact K) g).Nodup) : Wide lo hi := by
  by_contra hwide
  obtain ⟨hne, hnarrow⟩ := not_or.1 hwide
  push_cast at hnarrow
  have hspan : lo < hi := lt_of_le_of_ne hle hne
  have hleast : IsLeast (distances ((hi - lo) / 10) false) (spanStep lo hi xTicks false) :=
    isLeast_spanStep hspan (by decide)
  have hhalf : spanStep lo hi xTicks false ≤ 1 / 2 := by
    refine hleast.2 ⟨⟨5, by simp, -1, by norm_num⟩, by simp, ?_⟩
    unfold tolerated
    linarith
  have hcount := le_length_niceTicks hspan (by decide) hfits
  rw [tickLabels_eq hext hspan hfits, niceTicks_exact hspan (by decide) hfits] at *
  rw [length_multiples] at hcount
  have hpos : 0 < spanStep lo hi xTicks false := hleast.1.1.pos
  refine not_nodup_labels_multiples (Int.ceil_nonneg (div_nonneg hlo hpos.le)) hpos hhalf ?_ hnodup
  have hten : xTicks = 10 := rfl
  omega

end Panel

end Grid

/-! ## Panels of a table -/

namespace Scalar

theorem countSum_exact (counts : List ℕ) : @countSum K (exact K) counts = (counts.sum : ℕ) := by
  induction counts using List.reverseRecOn with
  | nil => exact Nat.cast_zero.symm
  | append_singleton counts n ih =>
    rw [@countSum_concat K (exact K), ih, List.sum_append, List.sum_singleton, Nat.cast_add]
    exact congrArg _ (Int.cast_natCast n)

end Scalar

namespace Table

theorem nnz_ne_nil {α : Type} [Scalar α] {t : Table α} {s : Selection} {g : ChartGroup α}
    (hg : g ∈ (t.normalize s).groups) : g.nnz ≠ [] := by
  have hrows : (t.clean s).rowsAt g.k ≠ [] :=
    mem_widths_iff_rowsAt.1 ((t.mem_groups_width s g.k).1 (List.mem_map_of_mem hg)).1
  rcases group_cases hg with ⟨-, hraw⟩ | ⟨w, -, -, -, haverages⟩
  · rw [hraw.nnz, ne_eq, List.map_eq_nil_iff]
    exact hrows
  · rw [← List.length_pos_iff, haverages.length]
    omega

variable {t : Table K} {s : Selection} {g : ChartGroup K}

theorem nonneg_of_mem_nnz (hg : g ∈ (@normalize K (.exact K) t s).groups) {x : K} (hx : x ∈ g.nnz) : 0 ≤ x := by
  rcases @group_cases K (.exact K) t s g hg with ⟨-, hraw⟩ | ⟨w, -, -, -, haverages⟩
  · rw [@ChartGroup.Holds.nnz K (.exact K) _ _ _ hraw, List.mem_map] at hx
    obtain ⟨row, -, rfl⟩ := hx
    exact Int.cast_nonneg (Int.natCast_nonneg row.nnz)
  · rw [@ChartGroup.Averages.nnz_eq K (.exact K) _ _ _ _ haverages, List.mem_map] at hx
    obtain ⟨run, -, rfl⟩ := hx
    refine div_nonneg ?_ (Int.cast_nonneg (Int.natCast_nonneg w))
    rw [Scalar.countSum_exact]
    exact Nat.cast_nonneg _

/-- **When the tick labels of a panel tell its ticks apart**: exactly if its numbers of nonzeros span more than five, or
nothing at all. -/
theorem tickLabels_normalize (hg : g ∈ (@normalize K (.exact K) t s).groups) :
    g.nnz ≠ [] ∧ ∀ lo hi, IsLeast {x | x ∈ g.nnz} lo → IsGreatest {x | x ∈ g.nnz} hi →
      (Grid.Wide lo hi → (@Grid.tickLabels K (.exact K) g).Nodup) ∧
      (SpanFits lo hi Grid.xTicks false → (@Grid.tickLabels K (.exact K) g).Nodup → Grid.Wide lo hi) := by
  have hne : g.nnz ≠ [] := @nnz_ne_nil K (.exact K) t s g hg
  refine ⟨hne, fun lo hi hlo hhi => ?_⟩
  obtain ⟨⟨lo', hi'⟩, hext, hspans⟩ := Grid.extremes?_exact hne
  obtain rfl : lo' = lo := hspans.least.unique hlo
  obtain rfl : hi' = hi := hspans.greatest.unique hhi
  have hnonneg : 0 ≤ lo' := nonneg_of_mem_nnz hg hlo.1
  exact ⟨Grid.nodup_tickLabels hext hnonneg hspans.le, Grid.wide_of_nodup_tickLabels hext hnonneg hspans.le⟩

def twoMatrices (sparse dense : ℕ) : Table ℚ := .ofRows
  [ (⟨"a.mtx", sparse, some 32, ∅⟩ : Observation ℚ).record .bsmr (some 1),
    (⟨"b.mtx", dense, some 32, ∅⟩ : Observation ℚ).record .bsmr (some 2) ]

/-- the bounds of a grid, without a window -/
def gridBounds : Selection := ⟨.bsmr, some (100000, 2000000), none⟩

theorem mergeSort_twoMatrices {sparse dense : ℕ} (h : sparse ≤ dense) :
    (twoMatrices sparse dense).rows.mergeSort (fun a b => a.nnz ≤ b.nnz) = (twoMatrices sparse dense).rows := by
  apply List.mergeSort_of_pairwise
  exact List.pairwise_pair.2 (decide_eq_true h)

theorem tickLabels_normalize_wide :
    ∃ g ∈ (@normalize ℚ (.exact ℚ) (twoMatrices 150000 154000) gridBounds).groups, g.nnz = [150000, 154000] ∧ Grid.Wide (150000 : ℚ) 154000 ∧ (@Grid.tickLabels ℚ (.exact ℚ) g).Nodup := by
  have hgroups : (@normalize ℚ (.exact ℚ) (twoMatrices 150000 154000) gridBounds).groups.map (·.nnz) =
      [[150000, 154000]] := by
    unfold normalize clean
    rw [mergeSort_twoMatrices (by decide)]
    decide +kernel
  obtain ⟨g, hg, hnnz⟩ := List.mem_map.1 (hgroups ▸ List.mem_cons_self)
  have hspans : Grid.Spans {x | x ∈ g.nnz} ((150000 : ℚ), 154000) := by
    have hne : [(150000 : ℚ), 154000] ≠ [] := List.cons_ne_nil _ _
    obtain ⟨pair, hpair, hspans⟩ := Grid.extremes?_exact hne
    have hends : @Grid.extremes? ℚ (.exact ℚ) [150000, 154000] = some (150000, 154000) := by decide +kernel
    rw [hends, Option.some_inj] at hpair
    rwa [hnnz, hpair]
  have hwide : Grid.Wide (150000 : ℚ) 154000 := .inr (by norm_num)
  exact ⟨g, hg, hnnz, hwide,
    ((tickLabels_normalize hg).2 150000 154000 hspans.least hspans.greatest).1 hwide⟩

/-- Four nonzeros apart there is a tick at every half, and four of the nine labels repeat another one. -/
theorem not_nodup_tickLabels_narrow :
    ¬ ∀ g ∈ (@normalize ℚ (.exact ℚ) (twoMatrices 150000 150004) gridBounds).groups,
      (@Grid.tickLabels ℚ (.exact ℚ) g).Nodup := by
  have hlabels : (@normalize ℚ (.exact ℚ) (twoMatrices 150000 150004) gridBounds).groups.map
      (@Grid.tickLabels ℚ (.exact ℚ)) = [["150000", "150000", "150001", "150002", "150002", "150002", "150003",
        "150004", "150004"]] := by
    unfold normalize clean
    rw [mergeSort_twoMatrices (by decide)]
    decide +kernel
  obtain ⟨g, hg, hnarrow⟩ := List.mem_map.1 (hlabels ▸ List.mem_cons_self)
  intro hnodup
  have hnot : ¬ ["150000", "150000", "150001", "150002", "150002", "150002", "150003", "150004", "150004"].Nodup := by
    decide
  exact hnot (hnarrow ▸ hnodup g hg)

end Table

end KernelCharts
