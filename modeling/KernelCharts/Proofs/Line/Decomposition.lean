import KernelCharts.Proofs.Line.Segments
import Mathlib.Data.List.SplitBy

/-!
# A column and its runs

A column of a line chart can be cut into maximal runs of measured values in one way only, and nothing is lost by
cutting it.

* `Apart`, `MaximalRuns` — what it means that runs are the maximal measured runs of a column;
* `maximalRuns_runs`, `MaximalRuns.unique` — the runs of a column are such, and there are no others;
* `columnOf`, `MaximalRuns.columnOf_eq` — the column is put together again from its runs and its length;
* `segments_decompose` — all of this for the segments of a chart.
-/

namespace KernelCharts.Line

variable {α : Type} {index : Nat} {values : List (Option α)} {rs : List (List (Nat × α))}

/-- Between two runs there is a category that is not measured, and none that is. -/
def Apart (values : List (Option α)) (run next : List (Nat × α)) : Prop :=
  ∀ p ∈ run.getLast?, ∀ q ∈ next.head?,
    (∃ c, p.1 < c ∧ c < q.1 ∧ values[c]? = some none) ∧
      ∀ c y, p.1 < c → c < q.1 → values[c]? ≠ some (some y)

/-- The runs are the maximal measured runs of a column. -/
structure MaximalRuns (values : List (Option α)) (rs : List (List (Nat × α))) : Prop where
  nonempty : ∀ run ∈ rs, run ≠ []
  consecutive : ∀ run ∈ rs, run.IsChain fun p q => q.1 = p.1 + 1
  measured : rs.flatten = measuredFrom 0 values
  apart : rs.IsChain (Apart values)

/-! ## Gaps -/

/-- **A run ends before a gap**: the next run does not start in the next category. -/
theorem isChain_runsFrom (index : Nat) (values : List (Option α)) :
    (runsFrom index values).IsChain fun run next =>
      ∀ p ∈ run.getLast?, ∀ q ∈ next.head?, p.1 + 1 < q.1 := by
  induction values generalizing index with
  | nil => exact .nil
  | cons value rest ih =>
    cases value with
    | none => exact ih (index + 1)
    | some y =>
      have hrest := ih (index + 1)
      rcases runsFrom_some_cases index y rest with ⟨z, later, run, runs, -, hnext, h⟩ | ⟨hhead, h⟩
      · -- the first run is longer by one point at its head, and ends where it did
        rw [hnext] at hrest
        rw [h]
        refine List.isChain_cons.2 ⟨?_, (List.isChain_cons.1 hrest).2⟩
        intro next hmem p hp
        exact (List.isChain_cons.1 hrest).1 next hmem p (List.getLast?_cons_cons ▸ hp)
      · rw [h]
        refine List.isChain_cons.2 ⟨?_, hrest⟩
        intro next hmem p hp q hq
        cases hp
        -- the next run starts with a value that is measured after the next category
        have hq : q ∈ measuredFrom (index + 1) rest := by
          rw [← flatten_runsFrom]
          exact List.mem_flatten.2 ⟨next, List.mem_of_head? hmem, List.mem_of_head? hq⟩
        have hle := le_of_mem_measuredFrom hq
        have hne : q.1 ≠ index + 1 := by
          obtain ⟨c, z⟩ := q
          rintro rfl
          exact hhead z (head?_of_mem_measuredFrom hq)
        show index + 1 < q.1
        omega

/-- Nothing stands between the last point of one part of a sorted list and the first point of the next part. -/
theorem not_between_of_pairwise {before after run next : List (Nat × α)} {p q r : Nat × α}
    (h : (before ++ (run ++ (next ++ after))).Pairwise fun p q => p.1 < q.1) (hp : p ∈ run.getLast?)
    (hq : q ∈ next.head?) (hr : r ∈ before ++ (run ++ (next ++ after))) : r.1 ≤ p.1 ∨ q.1 ≤ r.1 := by
  obtain ⟨run, rfl⟩ := List.getLast?_eq_some_iff.1 hp
  obtain ⟨next, rfl⟩ := List.head?_eq_some_iff.1 hq
  simp only [List.append_assoc, List.pairwise_append, List.mem_append, List.pairwise_cons, List.cons_append,
    List.mem_cons, List.nil_append] at h hr
  grind

theorem maximalRuns_runs (values : List (Option α)) : MaximalRuns values (runs values) := by
  constructor
  case nonempty =>
    rintro _ hrun rfl
    exact nil_notMem_runsFrom 0 values hrun
  case consecutive => exact fun run hrun => isChain_of_mem_runsFrom hrun
  case measured => exact flatten_runsFrom 0 values
  case apart =>
    refine List.isChain_iff_forall_rel_of_append_cons_cons.2 ?_
    intro run next before after hruns p hp q hq
    have hgap : p.1 + 1 < q.1 :=
      List.isChain_iff_forall_rel_of_append_cons_cons.1 (isChain_runsFrom 0 values) hruns p hp q hq
    have hsorted := pairwise_flatten_runs values
    rw [hruns, List.flatten_append, List.flatten_cons, List.flatten_cons] at hsorted
    have hnone : ∀ c y, p.1 < c → c < q.1 → values[c]? ≠ some (some y) := by
      intro c y hpc hcq hy
      rw [← mem_flatten_runs, hruns, List.flatten_append, List.flatten_cons, List.flatten_cons] at hy
      have hbetween := not_between_of_pairwise hsorted hp hq hy
      dsimp only at hbetween
      omega
    refine ⟨⟨p.1 + 1, Nat.lt_succ_self _, hgap, ?_⟩, hnone⟩
    -- the category after the run exists, since the next run comes later
    have hq : values[q.1]? = some (some q.2) := by
      rw [← mem_flatten_runs, hruns]
      simp [List.mem_of_head? hq]
    have hlt : p.1 + 1 < values.length := hgap.trans (List.getElem?_eq_some_iff.1 hq).1
    rw [List.getElem?_eq_getElem hlt]
    cases hvalue : values[p.1 + 1] with
    | none => rfl
    | some y => exact absurd (List.getElem?_eq_some_iff.2 ⟨hlt, hvalue⟩) (hnone _ y (Nat.lt_succ_self _) hgap)

/-! ## Uniqueness -/

/-- **Maximal runs are determined by the measured values**, which are split wherever the next category is not
the next one. -/
theorem MaximalRuns.eq_splitBy (h : MaximalRuns values rs) :
    rs = (measuredFrom 0 values).splitBy fun p q => q.1 == p.1 + 1 := by
  symm
  rw [List.splitBy_eq_iff]
  refine ⟨h.measured.symm, fun hnil => h.nonempty [] hnil rfl, ?_, ?_⟩
  · intro run hrun
    refine (h.consecutive run hrun).imp ?_
    intro p q hnext
    exact beq_iff_eq.2 hnext
  · refine h.apart.imp_of_mem_imp ?_
    intro run next hrun hnext hapart
    have hrun := h.nonempty run hrun
    have hnext := h.nonempty next hnext
    refine ⟨hrun, hnext, beq_eq_false_iff_ne.2 ?_⟩
    obtain ⟨⟨c, hpc, hcq, -⟩, -⟩ := hapart _ (List.getLast?_eq_some_getLast hrun) _ (List.head?_eq_some_head hnext)
    omega

theorem MaximalRuns.unique (h : MaximalRuns values rs) : rs = runs values :=
  h.eq_splitBy.trans (maximalRuns_runs values).eq_splitBy.symm

/-! ## Putting a column together -/

/-- the column of a length with the values of some runs -/
def columnOf (length : Nat) (rs : List (List (Nat × α))) : List (Option α) :=
  (List.range length).map fun c => rs.flatten.lookup c

theorem lookup_measuredFrom (index i : Nat) (values : List (Option α)) :
    (measuredFrom index values).lookup (index + i) = values[i]?.join := by
  induction values generalizing index i with
  | nil => rfl
  | cons value rest ih =>
    cases i with
    | zero =>
      cases value with
      | none =>
        -- the rest of the column starts in a later category
        rw [measuredFrom_none]
        refine List.lookup_eq_none_iff.2 ?_
        intro p hp
        have hle := le_of_mem_measuredFrom hp
        exact bne_iff_ne.2 (by omega)
      | some y => simp [measuredFrom_some]
    | succ i =>
      have hrest : (measuredFrom (index + 1) rest).lookup (index + (i + 1)) = rest[i]?.join := by
        rw [← ih (index + 1) i, Nat.add_right_comm, Nat.add_assoc]
      cases value with
      | none => exact hrest
      | some y =>
        rw [measuredFrom_some, List.lookup_cons, beq_false_of_ne (by omega)]
        exact hrest

theorem MaximalRuns.columnOf_eq (h : MaximalRuns values rs) : columnOf values.length rs = values := by
  refine List.ext_getElem (by simp [columnOf]) ?_
  intro c _ hc
  have hlookup := lookup_measuredFrom 0 c values
  rw [Nat.zero_add, List.getElem?_eq_getElem hc, Option.join_some] at hlookup
  rw [← hlookup, ← h.measured]
  simp [columnOf]

/-! ## Segments -/

/-- **The segments of a column are its maximal runs**: there is one way to cut the column into these, the segments
have their points, and the column can be put together again from them. -/
theorem segments_decompose [Scalar α] (values : List (Option α)) :
    ∃ rs, (∀ rs', MaximalRuns values rs' ↔ rs' = rs) ∧
      segments values = rs.map (fun run => run.map fun p => (Scalar.ofNat p.1, p.2)) ∧
      columnOf values.length rs = values := by
  have hruns := maximalRuns_runs values
  refine ⟨runs values, ?_, rfl, hruns.columnOf_eq⟩
  intro rs'
  constructor
  · exact fun h => h.unique
  · rintro rfl
    exact hruns

end KernelCharts.Line
