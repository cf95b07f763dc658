import KernelCharts.Chart.MovingAverage
import Mathlib.Data.List.DropRight
import Mathlib.Data.Set.List

/-!
# Moving averages of columns

The columns of a chart are averaged one by one.  They stay aligned because the runs of a column
depend on its length only.

* `windows_map`, `getElem?_windows`, `mem_of_mem_windows` — the runs of a column;
* `windows_drop`, `windows_rdrop` — the runs of what is left of a column;
* `measuredSum_map_some`, `measuredSum_eq_none` — a sum is missing exactly when a value is;
* `length_movingAverage` — the number of averages;
* `movingAverage_map_some` — a column without gaps is averaged without gaps, so that nothing is lost
  when the averages are taken out of their options;
* `MovingMeans`, `movingMeans_movingAverage` — what each average is.
-/

namespace KernelCharts

/-! ## Runs -/

theorem windows_map {β γ : Type} (f : β → γ) (w : Nat) (values : List β) :
    windows w (values.map f) = (windows w values).map (List.map f) := by
  unfold windows
  split
  · rfl
  · simp only [List.length_map, List.map_map, Function.comp_def, List.map_take, List.map_drop]

/-- A window has runs only if it is not empty and fits. -/
theorem of_mem_windows {β : Type} {w : Nat} {values run : List β} (h : run ∈ windows w values) :
    w ≠ 0 ∧ w ≤ values.length := by
  unfold windows at h
  split at h
  · cases h
  · obtain ⟨i, hi, -⟩ := List.mem_map.1 h
    rw [List.mem_range] at hi
    omega

theorem mem_of_mem_windows {β : Type} {w : Nat} {values run : List β} {value : β}
    (hrun : run ∈ windows w values) (hvalue : value ∈ run) : value ∈ values := by
  unfold windows at hrun
  split at hrun
  · cases hrun
  · obtain ⟨i, -, rfl⟩ := List.mem_map.1 hrun
    exact List.mem_of_mem_drop (List.mem_of_mem_take hvalue)

theorem getElem?_windows {β : Type} {w : Nat} (hw : w ≠ 0) (values : List β) (i : Nat) :
    (windows w values)[i]? =
      if i + w ≤ values.length then some ((values.drop i).take w) else none := by
  simp only [windows, if_neg hw, List.getElem?_map]
  split
  · rw [List.getElem?_range (by omega), Option.map_some]
  · rw [List.getElem?_eq_none (by rw [List.length_range]; omega), Option.map_none]

/-- The runs without the first values are the runs without the first runs. -/
theorem windows_drop {β : Type} (w j : Nat) (values : List β) :
    windows w (values.drop j) = (windows w values).drop j := by
  by_cases hw : w = 0
  · simp [windows, hw]
  refine List.ext_getElem? fun i => ?_
  rw [List.getElem?_drop, getElem?_windows hw, getElem?_windows hw, List.length_drop, List.drop_drop]
  have hfits : i + w ≤ values.length - j ↔ j + i + w ≤ values.length := by omega
  simp only [hfits]

/-- The runs without the last values are the runs without the last runs. -/
theorem windows_rdrop {β : Type} (w j : Nat) (values : List β) :
    windows w (values.rdrop j) = (windows w values).rdrop j := by
  by_cases hw : w = 0
  · simp [windows, List.rdrop, hw]
  unfold List.rdrop
  refine List.ext_getElem? fun i => ?_
  rw [List.getElem?_take, getElem?_windows hw, getElem?_windows hw, length_windows hw,
    List.length_take, List.drop_take, List.take_take]
  by_cases hfits : i + w ≤ values.length - j
  · rw [if_pos (by omega), if_pos (by omega), if_pos (by omega), min_eq_left (by omega)]
  · rw [if_neg (by omega), if_neg (by omega)]

/-! ## Sums -/

variable {α : Type} [Scalar α]

theorem foldl_measured_none (values : List (Option α)) :
    values.foldl (fun sum value => do return (← sum) + (← value)) none = (none : Option α) := by
  induction values with
  | nil => rfl
  | cons value values ih => exact ih

theorem foldl_measured_some (a : α) (values : List α) :
    (values.map some).foldl (fun sum value => do return (← sum) + (← value)) (some a) =
      some (values.foldl (· + ·) a) := by
  induction values generalizing a with
  | nil => rfl
  | cons value values ih => exact ih (a + value)

/-- The sum of measured values runs from left to right. -/
theorem measuredSum_map_some (values : List α) :
    measuredSum (values.map some) = some (values.foldl (· + ·) Scalar.emptySum) :=
  foldl_measured_some _ values

/-- A missing value spoils the sum. -/
theorem measuredSum_eq_none {values : List (Option α)} (h : none ∈ values) :
    measuredSum values = none := by
  obtain ⟨before, after, rfl⟩ := List.append_of_mem h
  unfold measuredSum
  rw [List.foldl_append, List.foldl_cons]
  cases before.foldl (fun sum value => do return (← sum) + (← value)) (some Scalar.emptySum) with
  | none => exact foldl_measured_none after
  | some sum => exact foldl_measured_none after

/-! ## Averages -/

/-- the mean of a run, missing when one of its values is missing -/
def runMean (w : Nat) (run : List (Option α)) : Option α := (measuredSum run).map (· / Scalar.ofNat w)

theorem movingAverage_eq_map (w : Nat) (values : List (Option α)) :
    movingAverage w values = (windows w values).map (runMean w) := rfl

theorem runMean_eq_none {w : Nat} {run : List (Option α)} (h : none ∈ run) : runMean w run = none := by
  simp [runMean, measuredSum_eq_none h]

theorem runMean_map_some (w : Nat) (run : List α) :
    runMean w (run.map some) = some (run.foldl (· + ·) Scalar.emptySum / Scalar.ofNat w) := by
  rw [runMean, measuredSum_map_some, Option.map_some]

@[simp] theorem length_movingAverage {w : Nat} (hw : w ≠ 0) (values : List (Option α)) :
    (movingAverage w values).length = values.length + 1 - w := by
  rw [movingAverage_eq_map, List.length_map, length_windows hw]

/-- Columns of one length are averaged to columns of one length. -/
theorem length_movingAverage_congr (w : Nat) {xs ys : List (Option α)} (h : xs.length = ys.length) :
    (movingAverage w xs).length = (movingAverage w ys).length := by
  by_cases hw : w = 0
  · subst hw; rfl
  · rw [length_movingAverage hw, length_movingAverage hw, h]

/-- A column without gaps is averaged run by run. -/
theorem movingAverage_measured (w : Nat) (values : List α) : movingAverage w (values.map some) =
    ((windows w values).map fun run => run.foldl (· + ·) Scalar.emptySum / Scalar.ofNat w).map some := by
  rw [movingAverage_eq_map, windows_map, List.map_map, List.map_map]
  exact List.map_congr_left fun run _ => runMean_map_some w run

/-- A column without gaps has averages without gaps. -/
theorem movingAverage_map_some (w : Nat) (values : List α) :
    ((movingAverage w (values.map some)).filterMap id).map some =
      movingAverage w (values.map some) := by
  rw [movingAverage_measured, List.filterMap_map]
  congr 1
  exact List.filterMap_some

/-- The averages without the first ones belong to the column without its first values. -/
theorem movingAverage_drop (w j : Nat) (values : List (Option α)) :
    movingAverage w (values.drop j) = (movingAverage w values).drop j := by
  rw [movingAverage_eq_map, movingAverage_eq_map, windows_drop, List.map_drop]

/-- The averages without the last ones belong to the column without its last values. -/
theorem movingAverage_rdrop (w j : Nat) (values : List (Option α)) :
    movingAverage w (values.rdrop j) = (movingAverage w values).rdrop j := by
  rw [movingAverage_eq_map, movingAverage_eq_map, windows_rdrop, List.rdrop, List.rdrop,
    List.map_take, List.length_map]

/-! ## Each average -/

/-- The averages of the runs of `w` values, each summed up from `start` on. -/
structure MovingMeans (start : α) (w : Nat) (values means : List (Option α)) : Prop where
  /-- there is none where no run fits -/
  empty : w = 0 ∨ values.length < w → means = []
  /-- there is one for each place where a run begins -/
  length : w ≠ 0 → w ≤ values.length → means.length = values.length - w + 1
  /-- an average is missing exactly where one of its values is -/
  missing : ∀ i < means.length, means[i]? = some none ↔
    ∃ j, i ≤ j ∧ j < i + w ∧ values[j]? = some none
  /-- any other is the sum of the run from left to right, divided by its length -/
  measured : ∀ i < means.length, (∀ j, i ≤ j → j < i + w → values[j]? ≠ some none) →
    ∃ run : List α, run.length = w ∧ (values.drop i).take w = run.map some ∧
      means[i]? = some (some (run.foldl (· + ·) start / Scalar.ofNat w))

/-- A list without gaps consists of values. -/
theorem exists_map_some {β : Type} {values : List (Option β)} (h : none ∉ values) :
    ∃ run : List β, run.map some = values := by
  have hrange : values ∈ Set.range (List.map some) := by
    rw [Set.range_list_map]
    intro value hvalue
    cases value with
    | none => exact absurd hvalue h
    | some value => exact ⟨value, rfl⟩
  exact hrange

/-- A run has a gap where the column has one. -/
theorem none_mem_run_iff {β : Type} {w i : Nat} {values : List (Option β)} :
    none ∈ (values.drop i).take w ↔ ∃ j, i ≤ j ∧ j < i + w ∧ values[j]? = some none := by
  rw [List.mem_iff_getElem?]
  constructor
  · rintro ⟨k, hk⟩
    rw [List.getElem?_take, List.getElem?_drop] at hk
    split at hk
    · exact ⟨i + k, by omega, by omega, hk⟩
    · cases hk
  · rintro ⟨j, hij, hj, hgap⟩
    refine ⟨j - i, ?_⟩
    rw [List.getElem?_take_of_lt (by omega), List.getElem?_drop, Nat.add_sub_cancel' hij, hgap]

/-- The average at a place is the mean of the run that begins there. -/
theorem getElem?_movingAverage {w i : Nat} {values : List (Option α)}
    (hi : i < (movingAverage w values).length) :
    i + w ≤ values.length ∧
      (movingAverage w values)[i]? = some (runMean w ((values.drop i).take w)) := by
  have hw : w ≠ 0 := by
    rintro rfl
    simp [movingAverage, windows] at hi
  rw [length_movingAverage hw] at hi
  have hfits : i + w ≤ values.length := by omega
  refine ⟨hfits, ?_⟩
  rw [movingAverage_eq_map, List.getElem?_map, getElem?_windows hw, if_pos hfits, Option.map_some]

theorem movingMeans_movingAverage (w : Nat) (values : List (Option α)) :
    MovingMeans Scalar.emptySum w values (movingAverage w values) where
  empty h := by
    by_cases hw : w = 0
    · subst hw; rfl
    · rw [← List.length_eq_zero_iff, length_movingAverage hw]
      omega
  length hw hfits := by rw [length_movingAverage hw, Nat.sub_add_comm hfits]
  missing i hi := by
    rw [(getElem?_movingAverage hi).2, ← none_mem_run_iff, Option.some_inj]
    constructor
    · intro hmean
      by_contra hgap
      obtain ⟨run, hrun⟩ := exists_map_some hgap
      rw [← hrun, runMean_map_some] at hmean
      cases hmean
    · exact runMean_eq_none
  measured i hi hmeasured := by
    obtain ⟨hfits, hmean⟩ := getElem?_movingAverage hi
    have hgap : none ∉ (values.drop i).take w := fun hgap => by
      obtain ⟨j, hij, hj, hnone⟩ := none_mem_run_iff.1 hgap
      exact hmeasured j hij hj hnone
    obtain ⟨run, hrun⟩ := exists_map_some hgap
    have hlength := congrArg List.length hrun
    rw [List.length_take, List.length_drop, List.length_map, min_eq_left (by omega)] at hlength
    exact ⟨run, hlength, hrun.symm, by rw [hmean, ← hrun, runMean_map_some]⟩

/-- **Moving averages**: one for each run of doubles, summed up from `-0.0` on, missing where a value of the run
is; a column without its ends has the averages without theirs. -/
theorem movingAverage_doubles (w : Nat) (values : List (Option Float)) :
    MovingMeans (-0.0) w values (movingAverage w values) ∧
      ∀ j, movingAverage w (values.drop j) = (movingAverage w values).drop j ∧
        movingAverage w (values.rdrop j) = (movingAverage w values).rdrop j :=
  ⟨movingMeans_movingAverage w values,
    fun j => ⟨movingAverage_drop w j values, movingAverage_rdrop w j values⟩⟩

end KernelCharts
