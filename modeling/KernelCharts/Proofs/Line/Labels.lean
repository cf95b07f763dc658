import KernelCharts.Line.Figure
import KernelCharts.Proofs.Chart.Ticks
import Mathlib.Data.List.Sort

/-!
# The labelled categories of a line chart

The locator of ticks takes the greatest number of intervals, and there is one label more than there are intervals
between them.  In exact arithmetic this is the only way in which a chart can have more than `maxTicks` labels, and
the charts that have one too many are known by their numbers of categories.

* `labelled` — the categories with a label, as numbers;
* `labelSteps` — the distances between them that may be chosen, and `exists_labelled_eq`: the least one is;
* `tickLabel_natCast` — the text of a label;
* `Labels`, `labels` — where the labels of a chart stand, what they say, and when there is one too many.
-/

set_option linter.unusedSectionVars false

namespace KernelCharts.Line

variable {K : Type} [Field K] [LinearOrder K] [IsStrictOrderedRing K] [FloorRing K]

/-! ## Steps -/

variable (K) in
/-- the nice whole distances at which the labels of `n` categories have few enough intervals between them, a
rounding error apart -/
def labelSteps (n : ℕ) : Set ℕ := {s | Nice (s : K) ∧ ((n - 1 : ℕ) : K) * (1 - 1e-9) ≤ maxTicks * s}

theorem one_mem_labelSteps {n : ℕ} (h : n ≤ maxTicks + 1) : 1 ∈ labelSteps K n := by
  have hle : ((n - 1 : ℕ) : K) ≤ maxTicks := by
    rw [Nat.cast_le]
    omega
  have hone : (1 - 1e-9 : K) ≤ 1 := by norm_num
  refine ⟨⟨1, by simp, 0, by simp⟩, ?_⟩
  rw [Nat.cast_one, mul_one]
  exact (mul_le_of_le_one_right (Nat.cast_nonneg _) hone).trans hle

theorem one_le_of_mem_labelSteps {n s : ℕ} (h : s ∈ labelSteps K n) : 1 ≤ s := by
  have hpos : (0 : K) < s := h.1.pos
  exact_mod_cast hpos

/-- The labels at such distances have no more intervals between them than there may be. -/
theorem div_le_maxTicks {n s : ℕ} (h : s ∈ labelSteps K n) : (n - 1) / s ≤ maxTicks := by
  have hpos := one_le_of_mem_labelSteps h
  by_contra hlarge
  have hspan : (maxTicks + 1) * s ≤ n - 1 := by
    rw [← Nat.le_div_iff_mul_le hpos]
    omega
  have hspan : ((maxTicks : K) + 1) * s ≤ ((n - 1 : ℕ) : K) := by exact_mod_cast hspan
  have hle := h.2
  have hcast : (1 : K) ≤ s := by exact_mod_cast hpos
  have hforty : (maxTicks : K) = 40 := by norm_num [maxTicks]
  rw [hforty] at hspan hle
  norm_num at hle hspan
  linarith

theorem natCast_mem_distances {n s : ℕ} :
    (s : K) ∈ distances (((n - 1 : ℕ) : K) / maxTicks) true ↔ s ∈ labelSteps K n := by
  have hpos : (0 : K) < maxTicks := by norm_num [maxTicks]
  have hle : tolerated (((n - 1 : ℕ) : K) / maxTicks) ≤ s ↔ ((n - 1 : ℕ) : K) * (1 - 1e-9) ≤ maxTicks * s := by
    rw [tolerated, div_mul_eq_mul_div, div_le_iff₀ hpos, mul_comm (s : K)]
  simp [distances, labelSteps, hle]

/-! ## The labelled categories -/

/-- the categories of a chart with a label, as numbers -/
def labelled (g : ChartGroup K) : List K := (@categoryAxis K (.exact K) g).ticks

/-- the multiples of a step among `n` categories -/
def everyNth (n s : ℕ) : List ℕ := (List.range ((n - 1) / s + 1)).map (· * s)

theorem mem_everyNth {n s c : ℕ} (hs : 1 ≤ s) : c ∈ everyNth n s ↔ s ∣ c ∧ c ≤ n - 1 := by
  simp only [everyNth, List.mem_map, List.mem_range, Nat.lt_succ_iff, Nat.le_div_iff_mul_le hs]
  constructor
  · rintro ⟨i, hi, rfl⟩
    exact ⟨Nat.dvd_mul_left s i, hi⟩
  · rintro ⟨⟨i, rfl⟩, hi⟩
    exact ⟨i, by rwa [mul_comm], mul_comm i s⟩

theorem pairwise_everyNth {n s : ℕ} (hs : 1 ≤ s) : (everyNth n s).Pairwise (· < ·) := by
  refine List.pairwise_map.2 (List.pairwise_lt_range.imp ?_)
  intro i j hij
  exact Nat.mul_lt_mul_of_pos_right hij hs

theorem mem_ticks_categoryAxis (cut : ℤ → ℤ → K → ℤ) {g : ChartGroup K} {x : K} :
    x ∈ (@categoryAxis K (.exactWith K cut) g).ticks ↔
      x ∈ @niceTicks K (.exactWith K cut) 0 ((g.nnz.length - 1 : ℕ) : K) maxTicks true ∧
        -(1 / 2) ≤ x ∧ x ≤ ((g.nnz.length - 1 : ℕ) : K) + 1 / 2 := by
  have hzero : (0.0 : K) = 0 := by norm_num
  have hhalf : (0.5 : K) = 1 / 2 := by norm_num
  have hunfold : (@categoryAxis K (.exactWith K cut) g).ticks =
      (@niceTicks K (.exactWith K cut) 0.0 (((g.nnz.length - 1 : ℕ) : ℤ) : K) maxTicks true).filter
        fun tick => decide (-0.5 ≤ tick ∧ tick ≤ (((g.nnz.length - 1 : ℕ) : ℤ) : K) + 0.5) := rfl
  rw [hunfold, List.mem_filter, decide_eq_true_eq, hzero, hhalf, Int.cast_natCast]

theorem mem_labelled {g : ChartGroup K} {x : K} : x ∈ labelled g ↔
    x ∈ @niceTicks K (.exact K) 0 ((g.nnz.length - 1 : ℕ) : K) maxTicks true ∧
      -(1 / 2) ≤ x ∧ x ≤ ((g.nnz.length - 1 : ℕ) : K) + 1 / 2 :=
  mem_ticks_categoryAxis (Scalar.exact K).truncate

/-- The step between the labels of several categories is the least that may be chosen. -/
theorem exists_spanStep_eq_natCast {n : ℕ} (h : 2 ≤ n) :
    ∃ s : ℕ, spanStep (0 : K) ((n - 1 : ℕ) : K) maxTicks true = s ∧ IsLeast (labelSteps K n) s := by
  have hspan : (0 : K) < ((n - 1 : ℕ) : K) := by
    rw [Nat.cast_pos]
    omega
  have hleast : IsLeast (distances ((((n - 1 : ℕ) : K) - 0) / maxTicks) true)
      (spanStep 0 ((n - 1 : ℕ) : K) maxTicks true) := isLeast_spanStep hspan (by decide)
  rw [sub_zero] at hleast
  obtain ⟨s, -, hs⟩ := exists_nat_of_whole hleast.1.1.pos (hleast.1.2.1 rfl)
  rw [hs] at hleast
  refine ⟨s, hs, natCast_mem_distances.1 hleast.1, ?_⟩
  intro t ht
  exact Nat.cast_le.1 (hleast.2 (natCast_mem_distances.2 ht))

theorem spanFits_categories {n : ℕ} (h : 2 ≤ n) (hlt : n < 9007199254740992) :
    SpanFits (0 : K) ((n - 1 : ℕ) : K) maxTicks true := by
  obtain ⟨s, hs, hleast⟩ := exists_spanStep_eq_natCast (K := K) h
  have hone : (1 : K) ≤ s := by exact_mod_cast one_le_of_mem_labelSteps hleast.1
  have hspan : (0 : K) ≤ ((n - 1 : ℕ) : K) := Nat.cast_nonneg _
  have hquotient : 0 ≤ ((n - 1 : ℕ) : K) / s ∧ ((n - 1 : ℕ) : K) / s ≤ ((n - 1 : ℕ) : K) :=
    ⟨div_nonneg hspan (by linarith), div_le_self hspan hone⟩
  have hlow : 0 ≤ ⌊((n - 1 : ℕ) : K) / s + 1e-9⌋ := by
    rw [Int.floor_nonneg]
    norm_num
    linarith
  have hhigh : ⌊((n - 1 : ℕ) : K) / s + 1e-9⌋ < ((n - 1 : ℕ) : ℤ) + 1 := by
    rw [Int.floor_lt]
    push_cast
    norm_num
    linarith
  rw [SpanFits, hs, zero_div, Int.ceil_zero]
  unfold FitsInt64
  omega

/-- **The locator's ticks for the categories** are the multiples of the least step that may be chosen.  A single
category has one tick. -/
theorem exists_niceTicks_categories {n : ℕ} (hpos : 1 ≤ n) (hlt : n < 9007199254740992) :
    ∃ s, IsLeast (labelSteps K n) s ∧
      (@niceTicks K (.exact K) 0 ((n - 1 : ℕ) : K) maxTicks true).Pairwise (· < ·) ∧
      ∀ x, x ∈ @niceTicks K (.exact K) 0 ((n - 1 : ℕ) : K) maxTicks true ↔
        0 ≤ x ∧ x ≤ ((n - 1 : ℕ) : K) + 1e-9 * s ∧ ∃ i : ℤ, x = i * s := by
  rcases Nat.eq_or_lt_of_le hpos with rfl | hseveral
  · have hticks : @niceTicks K (.exact K) 0 ((1 - 1 : ℕ) : K) maxTicks true = [0] := by simp [niceTicks]
    refine ⟨1, ⟨one_mem_labelSteps (by decide), fun s hs => one_le_of_mem_labelSteps hs⟩, ?_⟩
    rw [hticks]
    refine ⟨List.pairwise_singleton _ _, ?_⟩
    intro x
    rw [List.mem_singleton]
    constructor
    · rintro rfl
      exact ⟨le_rfl, by norm_num, 0, by simp⟩
    · rintro ⟨hlow, hhigh, i, rfl⟩
      norm_num at hlow hhigh
      have hlt : (i : K) < 1 := by linarith
      have hi : i = 0 := by
        have hlt : i < 1 := by exact_mod_cast hlt
        omega
      simp [hi]
  · obtain ⟨s, hs, hleast⟩ := exists_spanStep_eq_natCast (K := K) hseveral
    have hspan : (0 : K) < ((n - 1 : ℕ) : K) := by
      rw [Nat.cast_pos]
      omega
    have hfits := spanFits_categories (K := K) hseveral hlt
    refine ⟨s, hleast, pairwise_niceTicks hspan (by decide) hfits, ?_⟩
    intro x
    rw [mem_niceTicks hspan (by decide) hfits, hs]

/-- **The labelled categories**: every `s`th one, for the least step `s` that may be chosen. -/
theorem exists_labelled_eq {g : ChartGroup K} (hpos : 1 ≤ g.nnz.length) (hlt : g.nnz.length < 9007199254740992) :
    ∃ s, IsLeast (labelSteps K g.nnz.length) s ∧ labelled g = (everyNth g.nnz.length s).map Nat.cast := by
  obtain ⟨s, hleast, hsorted, hmem⟩ := exists_niceTicks_categories (K := K) hpos hlt
  have hs := one_le_of_mem_labelSteps hleast.1
  have hcast : (0 : K) < s := by exact_mod_cast hs
  refine ⟨s, hleast, ?_⟩
  have hleft : (labelled g).Pairwise (· < ·) := by
    have hsorted : (@niceTicks K (.exact K) 0.0 (((g.nnz.length - 1 : ℕ) : ℤ) : K) maxTicks true).Pairwise
        (· < ·) := by
      have hzero : (0.0 : K) = 0 := by norm_num
      rwa [hzero, Int.cast_natCast]
    exact hsorted.filter _
  have hright : ((everyNth g.nnz.length s).map (Nat.cast : ℕ → K)).Pairwise (· < ·) :=
    List.pairwise_map.2 ((pairwise_everyNth hs).imp fun hlt => Nat.cast_lt.2 hlt)
  refine hleft.eq_of_mem_iff hright ?_
  intro x
  rw [mem_labelled, hmem, List.mem_map]
  simp only [mem_everyNth hs]
  constructor
  · rintro ⟨⟨hlow, -, i, rfl⟩, -, hhigh⟩
    have hi : 0 ≤ i := by
      have hi : (0 : K) ≤ i := nonneg_of_mul_nonneg_left hlow hcast
      exact_mod_cast hi
    obtain ⟨i, rfl⟩ := Int.eq_ofNat_of_zero_le hi
    -- the axis ends half a category after the last one
    have hlt : ((i * s : ℕ) : K) < ((g.nnz.length - 1 + 1 : ℕ) : K) := by
      push_cast at hhigh ⊢
      linarith
    have hlt := Nat.cast_lt.1 hlt
    exact ⟨i * s, ⟨Nat.dvd_mul_left s i, by omega⟩, by push_cast; rfl⟩
  · rintro ⟨c, ⟨⟨i, rfl⟩, hc⟩, rfl⟩
    have hlow : (0 : K) ≤ ((s * i : ℕ) : K) := Nat.cast_nonneg _
    have hhigh : ((s * i : ℕ) : K) ≤ ((g.nnz.length - 1 : ℕ) : K) := Nat.cast_le.2 hc
    have hmargin : (0 : K) < 1e-9 * s := by positivity
    exact ⟨⟨hlow, by linarith, i, by push_cast; ring⟩, by linarith, by linarith⟩

/-! ## Texts -/

/-- The text stands for the category at a tick: it is the number of nonzeros of that category. -/
def LabelOf (g : ChartGroup K) (tick : K) (text : String) : Prop :=
  ∃ c x, tick = (c : ℕ) ∧ g.nnz[c]? = some x ∧ text = (Scalar.exact K).wholeText x ∧
    ∀ count : ℕ, x = count → text = toString count

theorem tickLabel_natCast {g : ChartGroup K} (hlt : g.nnz.length < 9007199254740992) {c : ℕ} {x : K}
    (hx : g.nnz[c]? = some x) : @tickLabel K (.exact K) g c = (Scalar.exact K).wholeText x := by
  have hc : c < g.nnz.length := (List.getElem?_eq_some_iff.1 hx).1
  have hindex : @Scalar.toInt64 K (.exact K) ((Scalar.exact K).max ((Scalar.exact K).round (c : K)) 0.0) = c := by
    have hround := Scalar.round_exact (K := K) c
    rw [Int.cast_natCast] at hround
    have hzero : (0.0 : K) = 0 := by norm_num
    have hmax : (Scalar.exact K).max (c : K) 0.0 = ((c : ℤ) : K) := by
      show (c : K) ⊔ 0.0 = ((c : ℤ) : K)
      rw [hzero, max_eq_left (Nat.cast_nonneg _), Int.cast_natCast]
    rw [hround, hmax]
    refine Scalar.toInt64_exact ?_
    unfold FitsInt64
    omega
  have hunfold : @tickLabel K (.exact K) g c = (g.nnz.map (Scalar.exact K).wholeText)[
      (@Scalar.toInt64 K (.exact K) ((Scalar.exact K).max ((Scalar.exact K).round (c : K)) 0.0)).toNat]?.getD "" := rfl
  rw [hunfold, hindex, Int.toNat_natCast, List.getElem?_map, hx]
  rfl

theorem labelOf_tickLabel {g : ChartGroup K} (hlt : g.nnz.length < 9007199254740992) {c : ℕ}
    (hc : c < g.nnz.length) : LabelOf g c (@tickLabel K (.exact K) g c) := by
  have hx := List.getElem?_eq_getElem hc
  refine ⟨c, g.nnz[c], rfl, hx, tickLabel_natCast hlt hx, ?_⟩
  intro count hcount
  rw [tickLabel_natCast hlt hx, hcount, Scalar.wholeText_exact]

/-! ## One label too many -/

variable (K) in
/-- At some distance between their labels, `n` categories have as many intervals as there may be, a rounding error
apart. -/
def Fills (n : ℕ) : Prop := ∃ s ∈ labelSteps K n, maxTicks * s ≤ n - 1

theorem lt_iff_not_fills {n s : ℕ} (h : IsLeast (labelSteps K n) s) : n - 1 < maxTicks * s ↔ ¬ Fills K n := by
  constructor
  · rintro hlt ⟨t, ht, hspan⟩
    have hle : maxTicks * s ≤ maxTicks * t := Nat.mul_le_mul_left _ (h.2 ht)
    omega
  · intro hfills
    by_contra hspan
    exact hfills ⟨s, h.1, not_lt.1 hspan⟩

/-! ## Labels -/

/-- The labels of a line chart. -/
structure Labels (g : ChartGroup K) : Prop where
  ascending : (labelled g).Pairwise (· < ·)
  first : (labelled g).head? = some 0
  categories : ∀ tick ∈ labelled g, ∃ c < g.nnz.length, tick = (c : ℕ)
  spaced : ∃ step : ℕ, 1 ≤ step ∧ (labelled g).IsChain fun a b : K => b = a + step
  /-- with few categories, each has its label -/
  all : g.nnz.length ≤ maxTicks → labelled g = (List.range g.nnz.length).map Nat.cast
  texts : ∀ canvas region,
    let frame := @frame K (.exact K) g canvas region
    List.Forall₂ (LabelOf g) frame.axis.ticks frame.tickLabels
  length_le : (labelled g).length ≤ maxTicks + 1
  /-- there is one too many exactly if the categories fill the intervals -/
  length_le_iff : (labelled g).length ≤ maxTicks ↔ ¬ Fills K g.nnz.length

/-- **The labels of a line chart**, in exact arithmetic. -/
theorem labels {g : ChartGroup K} (hpos : 1 ≤ g.nnz.length) (hlt : g.nnz.length < 9007199254740992) : Labels g := by
  obtain ⟨s, hleast, hlabelled⟩ := exists_labelled_eq hpos hlt
  have hs := one_le_of_mem_labelSteps hleast.1
  have hcategory : ∀ c ∈ everyNth g.nnz.length s, c < g.nnz.length := by
    intro c hc
    have hle := ((mem_everyNth hs).1 hc).2
    omega
  have hlength : (labelled g).length = (g.nnz.length - 1) / s + 1 := by
    rw [hlabelled, everyNth, List.length_map, List.length_map, List.length_range]
  constructor
  case ascending =>
    rw [hlabelled]
    exact List.pairwise_map.2 ((pairwise_everyNth hs).imp fun hlt => Nat.cast_lt.2 hlt)
  case first =>
    rw [hlabelled, everyNth, List.range_succ_eq_map]
    simp
  case categories =>
    intro tick htick
    rw [hlabelled] at htick
    obtain ⟨c, hc, rfl⟩ := List.mem_map.1 htick
    exact ⟨c, hcategory c hc, rfl⟩
  case spaced =>
    refine ⟨s, hs, ?_⟩
    rw [hlabelled, everyNth, List.isChain_map, List.isChain_map]
    refine (List.isChain_range_succ _ _).2 ?_
    intro i _
    push_cast
    ring
  case all =>
    intro hfew
    have hone : s = 1 := le_antisymm (hleast.2 (one_mem_labelSteps (by omega))) hs
    rw [hlabelled, hone, everyNth, Nat.div_one, Nat.sub_add_cancel hpos]
    simp
  case texts =>
    intro canvas region
    have hlabels : ∀ tick ∈ labelled g, LabelOf g tick (@tickLabel K (.exact K) g tick) := by
      rw [hlabelled]
      intro tick htick
      obtain ⟨c, hc, rfl⟩ := List.mem_map.1 htick
      exact labelOf_tickLabel hlt (hcategory c hc)
    show List.Forall₂ (LabelOf g) (labelled g) ((labelled g).map (@tickLabel K (.exact K) g))
    rw [List.forall₂_map_right_iff, List.forall₂_same]
    exact hlabels
  case length_le =>
    rw [hlength]
    exact Nat.succ_le_succ (div_le_maxTicks hleast.1)
  case length_le_iff =>
    rw [hlength, Nat.succ_le_iff, Nat.div_lt_iff_lt_mul hs, lt_iff_not_fills hleast]

/-- as many categories as asked for -/
def hundreds (n : ℕ) : ChartGroup ℚ :=
  { k := 32, sources := [], nnz := (List.range n).map fun c : ℕ => (100 * (c + 1) : ℚ), series := ∅ }

theorem labels_hundreds : 1 ≤ (hundreds 200).nnz.length ∧ (hundreds 200).nnz.length < 9007199254740992 ∧
    Labels (hundreds 200) :=
  have hlength : (hundreds 200).nnz.length = 200 := by rw [hundreds, List.length_map, List.length_range]
  ⟨by omega, by omega, labels (by omega) (by omega)⟩

/-- With one category more than there may be labels, each of them has a label. -/
theorem not_length_labelled_le_hundreds : (hundreds 41).nnz.length = 41 ∧
    ¬ (labelled (hundreds 41)).length ≤ maxTicks := by
  decide +kernel

end KernelCharts.Line
