import KernelCharts.Chart.Ticks
import KernelCharts.Proofs.Number.Exact
import Mathlib.Algebra.Order.Field.Power
import Mathlib.Tactic.Positivity
import Mathlib.Tactic.Ring

/-!
# Ticks at nice distances

In exact arithmetic the distance between ticks is told by what it is the least of, and the ticks by what they are
multiples of.

* `Nice` — the distances that are 1, 2, 2.5 or 5 times a power of ten, and where they stand in a decade;
* `isLeast_tickStep` — the chosen distance is the least nice one, whole if that is asked for, that is not below the
  wanted distance, a rounding error apart;
* `mem_niceTicks` — the ticks are the multiples of this distance within the span;
* `length_niceTicks_le`, `le_length_niceTicks` — how many there are;
* `TicksAt`, `ticksAt_niceTicks` — all this of the ticks of a span.
-/

set_option linter.unusedSectionVars false

namespace KernelCharts

variable {K : Type} [Field K] [LinearOrder K] [IsStrictOrderedRing K] [FloorRing K]

/-! ## Nice distances -/

/-- The distance is 1, 2, 2.5 or 5 times a power of ten. -/
def Nice (s : K) : Prop := ∃ m ∈ ({1, 2, 5 / 2, 5} : Set K), ∃ j : ℤ, s = m * 10 ^ j

theorem Nice.pos {s : K} (h : Nice s) : 0 < s := by
  obtain ⟨m, hm, j, rfl⟩ := h
  have hm : 0 < m := by rcases hm with rfl | rfl | rfl | rfl <;> norm_num
  positivity

/-- **A nice distance and a decade**: it is at most half of the decade, or one of those in it, or at least the next
decade. -/
theorem Nice.cases {s : K} (h : Nice s) (J : ℤ) :
    2 * s ≤ 10 ^ J ∨ (∃ m ∈ ({1, 2, 5 / 2, 5} : Set K), s = m * 10 ^ J) ∨ 10 * 10 ^ J ≤ s := by
  obtain ⟨m, hm, j, rfl⟩ := h
  have hm : m ∈ ({1, 2, 5 / 2, 5} : Set K) ∧ 1 ≤ m ∧ m ≤ 5 := by
    refine ⟨hm, ?_⟩
    rcases hm with rfl | rfl | rfl | rfl <;> norm_num
  have hpos : (0 : K) < 10 ^ j := by positivity
  rcases lt_trichotomy j J with hlt | rfl | hgt
  · left
    have hle : (10 : K) ^ (j + 1) ≤ 10 ^ J := zpow_le_zpow_right₀ (by norm_num) (by omega)
    rw [zpow_add_one₀ (by norm_num)] at hle
    nlinarith [hm.2.2]
  · exact .inr (.inl ⟨m, hm.1, rfl⟩)
  · right; right
    have hle : (10 : K) ^ (J + 1) ≤ 10 ^ j := zpow_le_zpow_right₀ (by norm_num) (by omega)
    rw [zpow_add_one₀ (by norm_num)] at hle
    nlinarith [hm.2.1]

theorem nice_ten_mul (J : ℤ) : Nice (10 * 10 ^ J : K) := by
  refine ⟨1, by simp, J + 1, ?_⟩
  rw [zpow_add_one₀ (by norm_num)]
  ring

/-- The next smaller nice distance is at least half as large. -/
theorem Nice.exists_half {s : K} (h : Nice s) : ∃ p : K, Nice p ∧ p < s ∧ s ≤ 2 * p := by
  obtain ⟨m, hm, j, rfl⟩ := h
  have hpos : (0 : K) < 10 ^ j := by positivity
  rcases hm with rfl | rfl | rfl | rfl
  · refine ⟨5 * 10 ^ (j - 1), ⟨5, by simp, j - 1, rfl⟩, ?_⟩
    rw [zpow_sub_one₀ (by norm_num)]
    constructor <;> linarith
  · exact ⟨1 * 10 ^ j, ⟨1, by simp, j, rfl⟩, by linarith, by linarith⟩
  · exact ⟨2 * 10 ^ j, ⟨2, by simp, j, rfl⟩, by linarith, by linarith⟩
  · exact ⟨5 / 2 * 10 ^ j, ⟨5 / 2, by simp, j, rfl⟩, by linarith, by linarith⟩

/-- A nice distance of more than a half is one, or at least two. -/
theorem Nice.eq_one_or_two_le {s : K} (h : Nice s) (hs : 1 / 2 < s) : s = 1 ∨ 2 ≤ s := by
  rcases h.cases 0 with hlow | ⟨m, hm, rfl⟩ | hhigh
  · rw [zpow_zero] at hlow
    linarith
  · rw [zpow_zero, mul_one]
    rcases hm with rfl | rfl | rfl | rfl
    · exact .inl rfl
    all_goals right; norm_num
  · rw [zpow_zero] at hhigh
    right
    linarith

/-! ## The candidates -/

/-- the distance that is wanted, less a rounding error -/
def tolerated (raw : K) : K := raw * (1 - 1e-9)

theorem tolerated_le {raw : K} (h : 0 ≤ raw) : tolerated raw ≤ raw := by
  have hone : (1 - 1e-9 : K) ≤ 1 := by norm_num
  exact mul_le_of_le_one_right h hone

theorem lt_two_mul_tolerated {raw : K} (h : 0 < raw) : raw < 2 * tolerated raw := by
  have htwo : (1 : K) < 2 * (1 - 1e-9) := by norm_num
  calc raw = raw * 1 := (mul_one raw).symm
    _ < raw * (2 * (1 - 1e-9)) := mul_lt_mul_of_pos_left htwo h
    _ = 2 * tolerated raw := by unfold tolerated; ring

/-- the nice distances in the decade of `raw` and the first one of the next decade; only whole ones if that is asked
for -/
def candidates (raw : K) (whole : Bool) : List K :=
  ((@niceSteps K (.exact K)).map (· * 10 ^ Int.log 10 raw)).filter fun step => !whole || decide (step = ⌊step⌋)

/-- the first candidate that is not below the wanted distance, or else the first distance of the next decade -/
def firstNice (raw : K) (whole : Bool) : K :=
  ((candidates raw whole).find? fun step => decide (tolerated raw ≤ step)).getD (10 * 10 ^ Int.log 10 raw)

theorem tickStep_exact (raw : K) (whole : Bool) : @tickStep K (.exact K) raw whole =
    if whole then (Scalar.exact K).round (firstNice raw whole ⊔ 1) else firstNice raw whole := by
  have hone : (1.0 : K) = 1 := by norm_num
  have hten : (10.0 : K) = 10 := by norm_num
  have hunfold : @tickStep K (.exact K) raw whole =
      let step := ((candidates raw whole).find? fun step => decide (raw * (1.0 - 1e-9) ≤ step)).getD
        (10.0 * 10 ^ Int.log 10 raw)
      if whole then (Scalar.exact K).round (step ⊔ 1.0) else step := rfl
  rw [hunfold, hone, hten]
  rfl

theorem mem_candidates {raw s : K} {whole : Bool} : s ∈ candidates raw whole ↔
    (∃ m ∈ ({1, 2, 5 / 2, 5, 10} : Set K), s = m * 10 ^ Int.log 10 raw) ∧ (whole = true → s = ⌊s⌋) := by
  have hsteps : @niceSteps K (.exact K) = [1, 2, 5 / 2, 5, 10] := by
    show [(1.0 : K), 2.0, 2.5, 5.0, 10.0] = _
    norm_num
  rw [candidates, hsteps, List.mem_filter, List.mem_map]
  refine and_congr ?_ ?_
  · simp [@eq_comm K s]
  · cases whole <;> simp

theorem pairwise_candidates (raw : K) (whole : Bool) : (candidates raw whole).Pairwise (· < ·) := by
  have hpos : (0 : K) < 10 ^ Int.log 10 raw := by positivity
  refine List.Pairwise.filter _ (List.pairwise_map.2 ?_)
  refine List.Pairwise.imp (R := fun a b : K => a < b) (fun h => mul_lt_mul_of_pos_right h hpos) ?_
  show [(1.0 : K), 2.0, 2.5, 5.0, 10.0].Pairwise (· < ·)
  norm_num

/-- the nice distances that are not below the wanted one; only whole ones if that is asked for -/
def distances (raw : K) (whole : Bool) : Set K :=
  {s : K | Nice s ∧ (whole = true → s = ⌊s⌋) ∧ tolerated raw ≤ s}

theorem exists_nat_of_whole {s : K} (hpos : 0 < s) (hs : s = ⌊s⌋) : ∃ n : ℕ, 1 ≤ n ∧ s = n := by
  have hfloor : 0 < ⌊s⌋ := by
    rw [hs] at hpos
    exact Int.cast_pos.1 hpos
  refine ⟨⌊s⌋.toNat, by omega, ?_⟩
  rw [← Int.cast_natCast, Int.toNat_of_nonneg hfloor.le]
  exact hs

theorem one_le_of_whole {s : K} (hpos : 0 < s) (hs : s = ⌊s⌋) : 1 ≤ s := by
  obtain ⟨n, hn, rfl⟩ := exists_nat_of_whole hpos hs
  exact_mod_cast hn

theorem le_of_find?_eq_some {p : K → Bool} {l : List K} (h : l.Pairwise (· < ·)) {a b : K}
    (ha : l.find? p = some a) (hb : b ∈ l) (hpb : p b) : a ≤ b := by
  obtain ⟨-, before, after, rfl, hbefore⟩ := List.find?_eq_some_iff_append.1 ha
  rw [List.mem_append, List.mem_cons] at hb
  rcases hb with hb | rfl | hb
  · exact absurd hpb (by simpa using hbefore b hb)
  · exact le_rfl
  · exact ((List.pairwise_cons.1 (List.pairwise_append.1 h).2.1).1 b hb).le

section

variable {raw : K} (h : 0 < raw) {whole : Bool}

include h

theorem tolerated_le_ten_mul : tolerated raw ≤ 10 * 10 ^ Int.log 10 raw :=
  (tolerated_le h.le).trans (Scalar.lt_decade_exact raw).le

/-- A nice distance that is not below the wanted one is a candidate, or no smaller than the next decade. -/
theorem Nice.mem_candidates_or {s : K} (hs : Nice s) (hwhole : whole = true → s = ⌊s⌋) (hle : tolerated raw ≤ s) :
    s ∈ candidates raw whole ∨ 10 * 10 ^ Int.log 10 raw ≤ s := by
  rcases hs.cases (Int.log 10 raw) with hlow | ⟨m, hm, rfl⟩ | hhigh
  · -- half of the decade is below the wanted distance, even with the rounding error taken off
    have hdecade : (10 : K) ^ Int.log 10 raw ≤ raw := Scalar.decade_exact_le h
    have htolerated := lt_two_mul_tolerated h
    linarith
  · left
    rw [mem_candidates]
    refine ⟨⟨m, ?_, rfl⟩, hwhole⟩
    rcases hm with rfl | rfl | rfl | rfl <;> simp
  · exact .inr hhigh

/-- If the first distance of the next decade is a candidate, the first candidate that is large enough is the least
nice distance that is. -/
theorem isLeast_firstNice (hten : 10 * 10 ^ Int.log 10 raw ∈ candidates raw whole) :
    IsLeast (distances raw whole) (firstNice raw whole) := by
  have hlarge := tolerated_le_ten_mul h
  have hfound : ((candidates raw whole).find? fun step => decide (tolerated raw ≤ step)).isSome := by
    rw [List.find?_isSome]
    exact ⟨_, hten, decide_eq_true hlarge⟩
  obtain ⟨step, hstep⟩ := Option.isSome_iff_exists.1 hfound
  have hfirst : firstNice raw whole = step := by rw [firstNice, hstep, Option.getD_some]
  have hleast : ∀ s ∈ candidates raw whole, tolerated raw ≤ s → step ≤ s := by
    intro s hs hle
    exact le_of_find?_eq_some (pairwise_candidates raw whole) hstep hs (decide_eq_true hle)
  have hle : tolerated raw ≤ step := by simpa using List.find?_some hstep
  obtain ⟨⟨m, hm, rfl⟩, hwhole⟩ := mem_candidates.1 (List.mem_of_find?_eq_some hstep)
  rw [hfirst]
  refine ⟨⟨?_, hwhole, hle⟩, ?_⟩
  · rcases hm with rfl | rfl | rfl | rfl | rfl
    · exact ⟨1, by simp, _, rfl⟩
    · exact ⟨2, by simp, _, rfl⟩
    · exact ⟨5 / 2, by simp, _, rfl⟩
    · exact ⟨5, by simp, _, rfl⟩
    · exact nice_ten_mul _
  · rintro s ⟨hs, hs', hle⟩
    rcases hs.mem_candidates_or h hs' hle with hmem | hhigh
    · exact hleast s hmem hle
    · exact (hleast _ hten hlarge).trans hhigh

/-- Below a tenth no candidate is whole, and the distance is one. -/
theorem isLeast_one (hJ : Int.log 10 raw < -1) : IsLeast (distances raw true) (firstNice raw true ⊔ 1) := by
  have hlow : (10 * 10 ^ Int.log 10 raw : K) < 1 := by
    have hlt : (10 : K) ^ (Int.log 10 raw + 1) < 10 ^ (0 : ℤ) := zpow_lt_zpow_right₀ (by norm_num) (by omega)
    rwa [zpow_add_one₀ (by norm_num), zpow_zero, mul_comm] at hlt
  have hnone : candidates raw true = [] := by
    rw [List.eq_nil_iff_forall_not_mem]
    intro s hs
    obtain ⟨⟨m, hm, rfl⟩, hwhole⟩ := mem_candidates.1 hs
    have hpos : (0 : K) < 10 ^ Int.log 10 raw := by positivity
    have hm : 0 < m ∧ m ≤ 10 := by rcases hm with rfl | rfl | rfl | rfl | rfl <;> norm_num
    have hone := one_le_of_whole (mul_pos hm.1 hpos) (hwhole rfl)
    nlinarith
  have hfirst : firstNice raw true = 10 * 10 ^ Int.log 10 raw := by
    rw [firstNice, hnone, List.find?_nil, Option.getD_none]
  rw [hfirst, max_eq_right hlow.le]
  refine ⟨⟨⟨1, by simp, 0, by simp⟩, fun _ => by simp, (tolerated_le_ten_mul h).trans hlow.le⟩, ?_⟩
  rintro s ⟨hs, hwhole, -⟩
  exact one_le_of_whole hs.pos (hwhole rfl)

/-- **The distance between ticks** is the least nice one that is not below the wanted distance, a rounding error
apart; the least whole one if that is asked for. -/
theorem isLeast_tickStep (whole : Bool) :
    IsLeast (distances raw whole) (@tickStep K (.exact K) raw whole) := by
  rw [tickStep_exact]
  cases whole with
  | false =>
    refine isLeast_firstNice h (mem_candidates.2 ⟨⟨10, by simp, rfl⟩, ?_⟩)
    rintro ⟨⟩
  | true =>
    have hleast : IsLeast (distances raw true) (firstNice raw true ⊔ 1) := by
      rcases lt_or_ge (Int.log 10 raw) (-1) with hJ | hJ
      · exact isLeast_one h hJ
      · -- ten times the decade is a power of ten with a natural exponent, and so whole
        have hten : (10 * 10 ^ Int.log 10 raw : K) = ((10 ^ (Int.log 10 raw + 1).toNat : ℤ) : K) := by
          rw [Int.cast_pow, ← zpow_natCast, Int.toNat_of_nonneg (by omega), zpow_add_one₀ (by norm_num), mul_comm]
          norm_num
        have hfirst : IsLeast (distances raw true) (firstNice raw true) := isLeast_firstNice h
          (mem_candidates.2 ⟨⟨10, by simp, rfl⟩, fun _ => by rw [hten, Int.floor_intCast]⟩)
        rwa [max_eq_left (one_le_of_whole hfirst.1.1.pos (hfirst.1.2.1 rfl))]
    rw [if_pos rfl]
    have hround : (Scalar.exact K).round (firstNice raw true ⊔ 1) = firstNice raw true ⊔ 1 := by
      rw [hleast.1.2.1 rfl]
      exact Scalar.round_exact _
    rwa [hround]

end

/-! ## Multiples -/

theorem mem_multiples {step x : K} {first last : ℤ} : x ∈ @multiples K (.exact K) step first last ↔
    ∃ i : ℤ, first ≤ i ∧ i ≤ last ∧ x = i * step := by
  have hunfold : @multiples K (.exact K) step first last =
      (List.range (last + 1 - first).toNat).map fun i : ℕ => ((first + i : ℤ) : K) * step := rfl
  rw [hunfold, List.mem_map]
  constructor
  · rintro ⟨i, hi, rfl⟩
    rw [List.mem_range] at hi
    exact ⟨first + i, by omega, by omega, rfl⟩
  · rintro ⟨i, hfirst, hlast, rfl⟩
    refine ⟨(i - first).toNat, List.mem_range.2 (by omega), ?_⟩
    rw [Int.toNat_of_nonneg (by omega), add_sub_cancel]

theorem pairwise_multiples {step : K} (h : 0 < step) (first last : ℤ) :
    (@multiples K (.exact K) step first last).Pairwise (· < ·) := by
  refine List.pairwise_map.2 (List.pairwise_lt_range.imp ?_)
  intro i j hij
  have hcast : ((first + i : ℤ) : K) < ((first + j : ℤ) : K) := by
    rw [Int.cast_lt]
    omega
  exact mul_lt_mul_of_pos_right hcast h

theorem length_multiples (step : K) (first last : ℤ) :
    (@multiples K (.exact K) step first last).length = (last + 1 - first).toNat := by
  simp [multiples]

/-! ## Spans -/

/-- the distance between the ticks of a span -/
def spanStep (lo hi : K) (maxBins : ℕ) (whole : Bool) : K := @tickStep K (.exact K) ((hi - lo) / maxBins) whole

/-- The numbers of the first and the last tick of a span can be held within 64 bits. -/
def SpanFits (lo hi : K) (maxBins : ℕ) (whole : Bool) : Prop :=
  FitsInt64 ⌈lo / spanStep lo hi maxBins whole⌉ ∧ FitsInt64 ⌊hi / spanStep lo hi maxBins whole + 1e-9⌋

/-- A span of one number has it as its tick. -/
theorem niceTicks_exactWith_self (cut : ℤ → ℤ → K → ℤ) (x : K) (maxBins : ℕ) (whole : Bool) :
    @niceTicks K (.exactWith K cut) x x maxBins whole = [x] := by
  simp [niceTicks]

theorem niceTicks_self (x : K) (maxBins : ℕ) (whole : Bool) : @niceTicks K (.exact K) x x maxBins whole = [x] :=
  niceTicks_exactWith_self (Scalar.exact K).truncate x maxBins whole

section

variable {lo hi : K} {maxBins : ℕ} (hspan : lo < hi) (hbins : 1 ≤ maxBins) {whole : Bool}

include hspan hbins

theorem span_pos : 0 < (hi - lo) / maxBins := by
  have hpos : (0 : K) < maxBins := by exact_mod_cast hbins
  exact div_pos (sub_pos.2 hspan) hpos

theorem isLeast_spanStep : IsLeast (distances ((hi - lo) / maxBins) whole) (spanStep lo hi maxBins whole) :=
  isLeast_tickStep (span_pos hspan hbins) whole

theorem spanStep_pos : 0 < spanStep lo hi maxBins whole := (isLeast_spanStep hspan hbins).1.1.pos

/-- A distance that need not be whole is less than twice the wanted one. -/
theorem spanStep_lt : spanStep lo hi maxBins false < 2 * ((hi - lo) / maxBins) := by
  have hleast : IsLeast (distances ((hi - lo) / maxBins) false) (spanStep lo hi maxBins false) :=
    isLeast_spanStep hspan hbins
  obtain ⟨p, hp, hlt, hle⟩ := hleast.1.1.exists_half
  have hsmall : p < tolerated ((hi - lo) / maxBins) := by
    by_contra hlarge
    exact hlt.not_ge (hleast.2 ⟨hp, by simp, not_lt.1 hlarge⟩)
  have hraw := tolerated_le (span_pos hspan hbins).le
  linarith

/-- The numbers of the ticks are whole parts. -/
theorem niceTicks_exactWith (cut : ℤ → ℤ → K → ℤ) : @niceTicks K (.exactWith K cut) lo hi maxBins whole =
    @multiples K (.exact K) (spanStep lo hi maxBins whole)
      (@Scalar.toInt64 K (.exactWith K cut) ⌈lo / spanStep lo hi maxBins whole⌉)
      (@Scalar.toInt64 K (.exactWith K cut) ⌊hi / spanStep lo hi maxBins whole + 1e-9⌋) := by
  have hunfold : @niceTicks K (.exactWith K cut) lo hi maxBins whole =
      if decide (hi < lo) then []
      else if decide (hi = lo) || maxBins == 0 then [lo]
      else
        let step := @tickStep K (.exact K) ((hi - lo) / (maxBins : ℤ)) whole
        @multiples K (.exact K) step (@Scalar.toInt64 K (.exactWith K cut) ⌈lo / step⌉)
          (@Scalar.toInt64 K (.exactWith K cut) ⌊hi / step + 1e-9⌋) := rfl
  have hzero : ¬ (decide (hi = lo) || maxBins == 0) := by
    simp [hspan.ne', show maxBins ≠ 0 by omega]
  rw [hunfold, if_neg (by simp [hspan.not_gt]), if_neg hzero, Int.cast_natCast]
  rfl

/-- The numbers of the ticks are held within 64 bits. -/
theorem niceTicks_eq_multiples : @niceTicks K (.exact K) lo hi maxBins whole =
    @multiples K (.exact K) (spanStep lo hi maxBins whole)
      (@Scalar.toInt64 K (.exact K) ⌈lo / spanStep lo hi maxBins whole⌉)
      (@Scalar.toInt64 K (.exact K) ⌊hi / spanStep lo hi maxBins whole + 1e-9⌋) :=
  niceTicks_exactWith hspan hbins (Scalar.exact K).truncate

theorem niceTicks_exact (hfits : SpanFits lo hi maxBins whole) : @niceTicks K (.exact K) lo hi maxBins whole =
    @multiples K (.exact K) (spanStep lo hi maxBins whole) ⌈lo / spanStep lo hi maxBins whole⌉
      ⌊hi / spanStep lo hi maxBins whole + 1e-9⌋ := by
  rw [niceTicks_eq_multiples hspan hbins, Scalar.toInt64_exact hfits.1, Scalar.toInt64_exact hfits.2]

/-- The multiples from the first to the last one within a span, up to a rounding error at its end. -/
theorem mem_multiples_span {x : K} : x ∈ @multiples K (.exact K) (spanStep lo hi maxBins whole)
      ⌈lo / spanStep lo hi maxBins whole⌉ ⌊hi / spanStep lo hi maxBins whole + 1e-9⌋ ↔
    lo ≤ x ∧ x ≤ hi + 1e-9 * spanStep lo hi maxBins whole ∧ ∃ i : ℤ, x = i * spanStep lo hi maxBins whole := by
  have hpos : 0 < spanStep lo hi maxBins whole := spanStep_pos hspan hbins
  have hends : ∀ i : ℤ, (⌈lo / spanStep lo hi maxBins whole⌉ ≤ i ∧ i ≤ ⌊hi / spanStep lo hi maxBins whole + 1e-9⌋) ↔
      lo ≤ i * spanStep lo hi maxBins whole ∧
        i * spanStep lo hi maxBins whole ≤ hi + 1e-9 * spanStep lo hi maxBins whole := by
    intro i
    rw [Int.ceil_le, Int.le_floor, div_le_iff₀ hpos, ← sub_le_iff_le_add, le_div_iff₀ hpos, sub_mul,
      sub_le_iff_le_add]
  rw [mem_multiples]
  constructor
  · rintro ⟨i, hfirst, hlast, rfl⟩
    obtain ⟨hlo, hhi⟩ := (hends i).1 ⟨hfirst, hlast⟩
    exact ⟨hlo, hhi, i, rfl⟩
  · rintro ⟨hlo, hhi, i, rfl⟩
    obtain ⟨hfirst, hlast⟩ := (hends i).2 ⟨hlo, hhi⟩
    exact ⟨i, hfirst, hlast, rfl⟩

/-- **The ticks of a span** are the multiples of the distance within it, up to a rounding error at its end. -/
theorem mem_niceTicks (hfits : SpanFits lo hi maxBins whole) {x : K} :
    x ∈ @niceTicks K (.exact K) lo hi maxBins whole ↔
      lo ≤ x ∧ x ≤ hi + 1e-9 * spanStep lo hi maxBins whole ∧ ∃ i : ℤ, x = i * spanStep lo hi maxBins whole := by
  rw [niceTicks_exact hspan hbins hfits]
  exact mem_multiples_span hspan hbins

theorem pairwise_niceTicks (hfits : SpanFits lo hi maxBins whole) :
    (@niceTicks K (.exact K) lo hi maxBins whole).Pairwise (· < ·) := by
  rw [niceTicks_exact hspan hbins hfits]
  exact pairwise_multiples (spanStep_pos hspan hbins) _ _

/-! ## The number of ticks -/

/-- the span in units of the distance between its ticks -/
def spanLength (lo hi : K) (maxBins : ℕ) (whole : Bool) : K := (hi - lo) / spanStep lo hi maxBins whole

theorem spanLength_eq : spanLength lo hi maxBins whole =
    maxBins * ((hi - lo) / maxBins) / spanStep lo hi maxBins whole := by
  have hne : (maxBins : K) ≠ 0 := by exact_mod_cast (show maxBins ≠ 0 by omega)
  rw [spanLength, mul_div_cancel₀ _ hne]

/-- The number of ticks is the length of the span in these units, cut off at both ends. -/
theorem length_niceTicks (hfits : SpanFits lo hi maxBins whole) :
    ∃ bins : ℤ, (@niceTicks K (.exact K) lo hi maxBins whole).length = (bins + 1).toNat ∧
      bins ≤ spanLength lo hi maxBins whole + 1e-9 ∧ spanLength lo hi maxBins whole + 1e-9 < bins + 2 := by
  refine ⟨⌊hi / spanStep lo hi maxBins whole + 1e-9⌋ - ⌈lo / spanStep lo hi maxBins whole⌉, ?_, ?_, ?_⟩
  · rw [niceTicks_exact hspan hbins hfits, length_multiples]
    congr 1
    ring
  · have hlast := Int.floor_le (hi / spanStep lo hi maxBins whole + 1e-9)
    have hfirst := Int.le_ceil (lo / spanStep lo hi maxBins whole)
    rw [spanLength, sub_div, Int.cast_sub]
    linarith
  · have hlast := Int.lt_floor_add_one (hi / spanStep lo hi maxBins whole + 1e-9)
    have hfirst := Int.ceil_lt_add_one (lo / spanStep lo hi maxBins whole)
    rw [spanLength, sub_div, Int.cast_sub]
    linarith

/-- **There are at most as many intervals as asked for.** -/
theorem length_niceTicks_le (hfits : SpanFits lo hi maxBins whole) (hmax : maxBins ≤ 1000000) :
    (@niceTicks K (.exact K) lo hi maxBins whole).length ≤ maxBins + 1 := by
  obtain ⟨bins, hlength, hle, -⟩ := length_niceTicks hspan hbins hfits
  have htolerated : tolerated ((hi - lo) / maxBins) ≤ spanStep lo hi maxBins whole :=
    (isLeast_spanStep hspan hbins).1.2.2
  have hbounded : spanLength lo hi maxBins whole * (1 - 1e-9) ≤ maxBins := by
    rw [spanLength_eq hspan hbins, div_mul_eq_mul_div, div_le_iff₀ (spanStep_pos hspan hbins), mul_assoc]
    exact mul_le_mul_of_nonneg_left htolerated (Nat.cast_nonneg _)
  have hlt : (bins : K) < maxBins + 1 := by
    have hmax : (maxBins : K) ≤ 1000000 := by exact_mod_cast hmax
    by_contra hge
    have hge : (maxBins : K) + 1 ≤ spanLength lo hi maxBins whole + 1e-9 := (not_lt.1 hge).trans hle
    norm_num at hbounded hge
    linarith
  have hlt : bins < maxBins + 1 := by exact_mod_cast hlt
  omega

/-- **There are at least half as many intervals as asked for** when any nice distance will do. -/
theorem le_length_niceTicks (hfits : SpanFits lo hi maxBins false) :
    maxBins / 2 ≤ (@niceTicks K (.exact K) lo hi maxBins false).length := by
  obtain ⟨bins, hlength, -, hlt⟩ := length_niceTicks hspan hbins hfits
  have hlong : (maxBins : K) / 2 < spanLength lo hi maxBins false := by
    rw [spanLength_eq hspan hbins, lt_div_iff₀ (spanStep_pos hspan hbins)]
    have hpos : (0 : K) < maxBins := by exact_mod_cast hbins
    have hstep := spanStep_lt hspan hbins
    nlinarith
  have hlt : (maxBins : K) < 2 * (bins + 2) := by
    norm_num at hlt
    linarith
  have hlt : (maxBins : ℤ) < 2 * (bins + 2) := by exact_mod_cast hlt
  omega

/-- A distance that need not be whole is one of five in the decade of the wanted one. -/
theorem exists_spanStep_eq : ∃ m ∈ ({1, 2, 5 / 2, 5, 10} : Set K),
    spanStep lo hi maxBins false = m * 10 ^ Int.log 10 ((hi - lo) / maxBins : K) := by
  have hraw := span_pos hspan hbins
  have hleast : IsLeast (distances ((hi - lo) / maxBins) false) (spanStep lo hi maxBins false) :=
    isLeast_spanStep hspan hbins
  have hten : spanStep lo hi maxBins false ≤ 10 * 10 ^ Int.log 10 ((hi - lo) / maxBins : K) :=
    hleast.2 ⟨nice_ten_mul _, by simp, tolerated_le_ten_mul hraw⟩
  rcases hleast.1.1.mem_candidates_or hraw hleast.1.2.1 hleast.1.2.2 with hmem | hge
  · exact (mem_candidates.1 hmem).1
  · exact ⟨10, by simp, le_antisymm hten hge⟩

end

/-! ## Ticks -/

/-- The ticks of a span stand at the multiples of one distance, and this is a good distance for the number of
intervals that is asked for. -/
structure TicksAt (lo hi : K) (maxBins : ℕ) (whole : Bool) (ticks : List K) (step : K) : Prop where
  positive : 0 < step
  ascending : ticks.Pairwise (· < ·)
  mem_iff : ∀ x, x ∈ ticks ↔ lo ≤ x ∧ x ≤ hi + 1e-9 * step ∧ ∃ i : ℤ, x = i * step
  length_le : ticks.length ≤ maxBins + 1
  large : (hi - lo) / maxBins * (1 - 1e-9) ≤ step
  /-- without whole distances: a nice distance in the decade of the wanted one, less than twice as long -/
  nice : whole = false → ∃ j : ℤ, ∃ m ∈ ({1, 2, 5 / 2, 5, 10} : Set K), step = m * 10 ^ j ∧
    10 ^ j ≤ (hi - lo) / maxBins ∧ (hi - lo) / maxBins < 10 * 10 ^ j ∧
    step < 2 * ((hi - lo) / maxBins) ∧ maxBins / 2 ≤ ticks.length
  whole : whole = true → (∃ n : ℕ, 1 ≤ n ∧ step = n) ∧ ∀ x ∈ ticks, ∃ i : ℤ, x = i

/-- **The ticks of a span**, in exact arithmetic. -/
theorem ticksAt_niceTicks {lo hi : K} {maxBins : ℕ} {whole : Bool} (hspan : lo < hi) (hbins : 1 ≤ maxBins)
    (hmax : maxBins ≤ 1000000) (hfits : SpanFits lo hi maxBins whole) :
    TicksAt lo hi maxBins whole (@niceTicks K (.exact K) lo hi maxBins whole) (spanStep lo hi maxBins whole) := by
  have hraw := span_pos hspan hbins
  have hleast : IsLeast (distances ((hi - lo) / maxBins) whole) (spanStep lo hi maxBins whole) :=
    isLeast_spanStep hspan hbins
  constructor
  case positive => exact spanStep_pos hspan hbins
  case ascending => exact pairwise_niceTicks hspan hbins hfits
  case mem_iff => exact fun x => mem_niceTicks hspan hbins hfits
  case length_le => exact length_niceTicks_le hspan hbins hfits hmax
  case large => exact hleast.1.2.2
  case nice =>
    rintro rfl
    obtain ⟨m, hm, hstep⟩ := exists_spanStep_eq hspan hbins
    exact ⟨_, m, hm, hstep, Scalar.decade_exact_le hraw, Scalar.lt_decade_exact _, spanStep_lt hspan hbins,
      le_length_niceTicks hspan hbins hfits⟩
  case whole =>
    rintro rfl
    obtain ⟨n, hn, hstep⟩ := exists_nat_of_whole hleast.1.1.pos (hleast.1.2.1 rfl)
    refine ⟨⟨n, hn, hstep⟩, ?_⟩
    intro x hx
    obtain ⟨-, -, i, rfl⟩ := (mem_niceTicks hspan hbins hfits).1 hx
    exact ⟨i * n, by rw [hstep]; push_cast; rfl⟩

theorem ticksAt_niceTicks_nonzeros : (100000 : ℚ) < 2000000 ∧ SpanFits (100000 : ℚ) 2000000 10 false ∧
    TicksAt (100000 : ℚ) 2000000 10 false (@niceTicks ℚ (.exact ℚ) 100000 2000000 10 false)
      (spanStep 100000 2000000 10 false) :=
  have hspan : (100000 : ℚ) < 2000000 := by decide +kernel
  have hfits : SpanFits (100000 : ℚ) 2000000 10 false := by
    unfold SpanFits
    decide +kernel
  ⟨hspan, hfits, ticksAt_niceTicks hspan (by decide) (by decide) hfits⟩

end KernelCharts
