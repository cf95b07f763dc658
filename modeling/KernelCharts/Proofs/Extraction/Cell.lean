import KernelCharts.Extraction.Cell
import KernelCharts.Proofs.Number.Numerals

/-!
# Throughputs of a row

* `IsThroughput`, `throughput?_eq_some_iff` — the texts that stand for a throughput;
* `StatesThroughput`, `readThroughput_eq_ok_iff` — the cells that a throughput is read from;
* `exists_readThroughputs` — the row that is read from such cells;
* `Filled`, `readThroughputs_eq_ok_iff` — when the cells of a row are read, and what of them;
* `source_of_readThroughputs` — a row keeps its matrix.
-/

namespace KernelCharts

/-- The text is a numeral of a finite number that is not negative. -/
def IsThroughput (text : List Char) (x : Float) : Prop :=
  ∃ n, Number.Numeral.read? text = some n ∧ n.toFloat = x ∧ x.isFinite = true ∧ 0.0 ≤ x

theorem throughput?_eq_some_iff {text : List Char} {x : Float} :
    throughput? text = some x ↔ IsThroughput text x := by
  rw [throughput?, Option.filter_eq_some_iff, Option.map_eq_some_iff, Bool.and_eq_true,
    decide_eq_true_eq]
  constructor
  · rintro ⟨⟨n, hn, hx⟩, hbounds⟩
    exact ⟨n, hn, hx, hbounds⟩
  · rintro ⟨n, hn, hx, hbounds⟩
    exact ⟨⟨n, hn, hx⟩, hbounds⟩

/-- A text that stands for a throughput is a numeral. -/
theorem exists_numeral_of_throughput? {text : List Char} {x : Float} (h : throughput? text = some x) :
    ∃ n, Number.Numeral.read? text = some n := by
  obtain ⟨hread, -⟩ := Option.filter_eq_some_iff.1 h
  obtain ⟨n, hn, -⟩ := Option.map_eq_some_iff.1 hread
  exact ⟨n, hn⟩

/-- The text states a throughput: it stands for it, or is empty if the kernel was not measured. -/
def StatesThroughput (text : List Char) : Option Float → Prop
  | none => text = []
  | some x => throughput? text = some x

/-- **A throughput is read from the texts that state it.** -/
theorem StatesThroughput.readThroughput_eq {text : List Char} {gflops : Option Float}
    (h : StatesThroughput text gflops) (column : String) : readThroughput column text = .ok gflops := by
  cases gflops with
  | none =>
    have hnil : text = [] := h
    rw [hnil]
    rfl
  | some x =>
    have hx : throughput? text = some x := h
    obtain ⟨n, hn⟩ := exists_numeral_of_throughput? hx
    have hempty : text.isEmpty = false :=
      List.isEmpty_eq_false_iff.2 (Number.Numeral.ne_nil_of_read? hn)
    rw [readThroughput, hempty, hx]
    rfl

theorem statesThroughput_of_readThroughput {column : String} {text : List Char}
    {gflops : Option Float} (h : readThroughput column text = .ok gflops) :
    StatesThroughput text gflops := by
  rw [readThroughput] at h
  split at h
  · next hempty =>
    cases h
    exact List.isEmpty_iff.1 hempty
  · split at h
    · next hx =>
      cases h
      exact hx
    · cases h

theorem readThroughput_eq_ok_iff {column : String} {text : List Char} {gflops : Option Float} :
    readThroughput column text = .ok gflops ↔ StatesThroughput text gflops :=
  ⟨statesThroughput_of_readThroughput, fun h => h.readThroughput_eq column⟩

theorem readThroughputs_cons (kernel : Kernel) (cell : List Char) (cells : List (Kernel × List Char))
    (row : Observation Float) : readThroughputs ((kernel, cell) :: cells) row =
      (readThroughput kernel.name cell).bind fun gflops =>
        readThroughputs cells (row.record kernel gflops) := by
  rw [readThroughputs, List.foldlM_cons]
  dsimp only
  cases readThroughput kernel.name cell <;> rfl

theorem source_of_readThroughputs {cells : List (Kernel × List Char)} {row row' : Observation Float}
    (h : readThroughputs cells row = .ok row') : row'.source = row.source := by
  induction cells generalizing row with
  | nil =>
    cases h
    rfl
  | cons cell cells ih =>
    obtain ⟨kernel, text⟩ := cell
    rw [readThroughputs_cons] at h
    cases hcell : readThroughput kernel.name text with
    | error cause =>
      rw [hcell] at h
      cases h
    | ok gflops =>
      rw [hcell] at h
      exact (ih h :)

/-- **The throughputs of a row are those of its cells**, if all of them can be read. -/
theorem exists_readThroughputs {gflops : Kernel → Option Float} {cells : List (Kernel × List Char)}
    (h : ∀ cell ∈ cells, readThroughput cell.1.name cell.2 = .ok (gflops cell.1))
    (row : Observation Float) :
    ∃ row', readThroughputs cells row = .ok row' ∧ row'.source = row.source ∧ row'.nnz = row.nnz ∧
      row'.k = row.k ∧ ∀ kernel, row'.throughput.get? kernel =
        if kernel ∈ cells.map (·.1) then some (gflops kernel) else row.throughput.get? kernel := by
  induction cells generalizing row with
  | nil => exact ⟨row, rfl, rfl, rfl, rfl, fun kernel => by simp⟩
  | cons cell cells ih =>
    obtain ⟨named, text⟩ := cell
    have hcell := h _ List.mem_cons_self
    obtain ⟨row', hread, hsource, hnnz, hk, hgflops⟩ :=
      ih (fun cell hcell => h cell (List.mem_cons_of_mem _ hcell)) (row.record named (gflops named))
    refine ⟨row', ?_, hsource, hnnz, hk, fun kernel => ?_⟩
    · rw [readThroughputs_cons, hcell]
      exact hread
    · rw [hgflops kernel, List.map_cons]
      by_cases hmem : kernel ∈ cells.map (·.1)
      · rw [if_pos hmem, if_pos (List.mem_cons_of_mem _ hmem)]
      · by_cases hnamed : kernel = named
        · subst hnamed
          simp [Observation.record]
        · simp [Observation.record, hmem, hnamed]

/-- A row has the throughputs of some cells, and is as it was otherwise. -/
structure Filled (cells : List (Kernel × List Char)) (row row' : Observation Float) : Prop where
  source : row'.source = row.source
  nnz : row'.nnz = row.nnz
  k : row'.k = row.k
  stated : ∀ cell ∈ cells, ∃ gflops, row'.throughput.get? cell.1 = some gflops ∧
    StatesThroughput cell.2 gflops
  others : ∀ kernel, kernel ∉ cells.map (·.1) →
    row'.throughput.get? kernel = row.throughput.get? kernel

theorem filled_of_readThroughputs {cells : List (Kernel × List Char)}
    (hdistinct : (cells.map (·.1)).Nodup) {row row' : Observation Float}
    (h : readThroughputs cells row = .ok row') : Filled cells row row' := by
  induction cells generalizing row with
  | nil =>
    cases h
    exact ⟨rfl, rfl, rfl, by simp, fun _ _ => rfl⟩
  | cons cell cells ih =>
    obtain ⟨named, text⟩ := cell
    rw [List.map_cons, List.nodup_cons] at hdistinct
    rw [readThroughputs_cons] at h
    cases hcell : readThroughput named.name text with
    | error cause =>
      rw [hcell] at h
      cases h
    | ok gflops =>
      rw [hcell] at h
      have hrest : Filled cells (row.record named gflops) row' := ih hdistinct.2 h
      refine ⟨hrest.source, hrest.nnz, hrest.k, ?_, fun kernel hkernel => ?_⟩
      · rw [List.forall_mem_cons]
        refine ⟨⟨gflops, ?_, readThroughput_eq_ok_iff.1 hcell⟩, hrest.stated⟩
        -- the kernels after this one are others, so its throughput stays
        rw [hrest.others named hdistinct.1]
        simp [Observation.record]
      · rw [List.map_cons, List.mem_cons, not_or] at hkernel
        rw [hrest.others kernel hkernel.2]
        simp [Observation.record, hkernel.1]

theorem Filled.gflops_eq_some_iff {cells : List (Kernel × List Char)} {row row' : Observation Float}
    (h : Filled cells row row') (hempty : row.throughput = ∅) {kernel : Kernel} {x : Float} :
    row'.gflops kernel = some x ↔ ∃ text, (kernel, text) ∈ cells ∧ IsThroughput text x := by
  rw [Observation.gflops]
  constructor
  · intro hx
    by_cases hmem : kernel ∈ cells.map (·.1)
    · obtain ⟨cell, hcell, rfl⟩ := List.mem_map.1 hmem
      obtain ⟨gflops, hget, hstates⟩ := h.stated cell hcell
      rw [hget, Option.join_some] at hx
      subst hx
      exact ⟨cell.2, hcell, throughput?_eq_some_iff.1 hstates⟩
    · rw [h.others kernel hmem, hempty] at hx
      simp at hx
  · rintro ⟨text, hcell, htext⟩
    obtain ⟨gflops, hget, hstates⟩ := h.stated _ hcell
    have hread : readThroughput kernel.name text = .ok gflops := hstates.readThroughput_eq _
    have hx : StatesThroughput text (some x) := throughput?_eq_some_iff.2 htext
    rw [hx.readThroughput_eq] at hread
    cases hread
    rw [hget, Option.join_some]

/-- **When throughputs are read, and what they are.** -/
theorem readThroughputs_eq_ok_iff {cells : List (Kernel × List Char)}
    (hdistinct : (cells.map (·.1)).Nodup) {row row' : Observation Float} :
    readThroughputs cells row = .ok row' ↔ Filled cells row row' := by
  refine ⟨filled_of_readThroughputs hdistinct, fun h => ?_⟩
  have hcells : ∀ cell ∈ cells, readThroughput cell.1.name cell.2 = .ok (row'.gflops cell.1) := by
    intro cell hcell
    obtain ⟨gflops, hget, hstates⟩ := h.stated cell hcell
    rw [readThroughput_eq_ok_iff, Observation.gflops, hget]
    exact hstates
  obtain ⟨read, hread, hsource, hnnz, hk, hgflops⟩ := exists_readThroughputs hcells row
  have hthroughput : read.throughput = row'.throughput := by
    apply KernelMap.ext
    intro kernel
    rw [hgflops kernel]
    split
    · next hmem =>
      obtain ⟨cell, hcell, rfl⟩ := List.mem_map.1 hmem
      obtain ⟨gflops, hget, -⟩ := h.stated cell hcell
      rw [Observation.gflops, hget]
      rfl
    · next hmem => exact (h.others kernel hmem).symm
  have hrow : read = row' := by
    cases read
    cases row'
    cases hsource.trans h.source.symm
    cases hnnz.trans h.nnz.symm
    cases hk.trans h.k.symm
    cases hthroughput
    rfl
  rw [hread, hrow]

end KernelCharts
