import KernelCharts.Extraction.Cell
import KernelCharts.Proofs.Table.Order
import Mathlib.Data.List.Forall2
import Mathlib.Data.List.Nodup

/-!
# Columns of a header

* `places` — the elements of a list that have an image, with the image and the index;
* `namedColumns_eq_places`, `kernelColumns_eq_places` — the columns of kernels as such places;
* `mem_kernelColumns` — the column of a kernel is the first one that names it;
* `repeatedKernels_eq_nil` — kernels that are named once are not repeated;
* `findIdx?_eq_of_forall₂`, `exists_getElem?_of_forall₂`, `forall_right_of_forall₂` — what is found in
  a list is found in a list that corresponds to it.
-/

namespace KernelCharts

/-! ### Places -/

/-- the elements of a list that have an image, as the image and the index -/
def places {β κ : Type} (f : β → Option κ) (l : List β) : List (κ × Nat) :=
  l.zipIdx.filterMap fun (x, i) => (f x).map fun y => (y, i)

section Places

variable {β γ κ : Type} {f : β → Option κ} {l : List β}

theorem map_fst_places (f : β → Option κ) (l : List β) :
    (places f l).map (·.1) = l.filterMap f := by
  have hfst : ∀ place : β × Nat, ((f place.1).map fun y => (y, place.2)).map (·.1) = f place.1 := by
    intro place
    cases f place.1 <;> rfl
  rw [places, List.map_filterMap]
  conv_rhs => rw [← List.zipIdx_map_fst 0 l, List.filterMap_map]
  exact List.filterMap_congr fun place _ => hfst place

theorem mem_places {place : κ × Nat} :
    place ∈ places f l ↔ ∃ x, l[place.2]? = some x ∧ f x = some place.1 := by
  simp only [places, List.mem_filterMap, List.mem_zipIdx_iff_getElem?, Prod.exists]
  constructor
  · rintro ⟨x, i, hi, hplace⟩
    obtain ⟨y, hy, rfl⟩ := Option.map_eq_some_iff.1 hplace
    exact ⟨x, hi, hy⟩
  · rintro ⟨x, hi, hx⟩
    exact ⟨x, place.2, hi, by rw [hx]; rfl⟩

theorem places_map (f : β → Option κ) (g : γ → β) (l : List γ) :
    places f (l.map g) = places (fun x => f (g x)) l := by
  rw [places, places, List.zipIdx_map, List.filterMap_map]
  rfl

theorem pairwise_places (f : β → Option κ) (l : List β) :
    (places f l).Pairwise fun p q => p.2 < q.2 := by
  have hindices : (l.zipIdx.map (·.2)).Pairwise (· < ·) := by
    rw [List.zipIdx_map_snd]
    exact List.pairwise_lt_range'
  rw [places, List.pairwise_filterMap]
  refine (List.pairwise_map.1 hindices).imp ?_
  rintro p q hlt p' hp q' hq
  obtain ⟨_, -, rfl⟩ := Option.map_eq_some_iff.1 hp
  obtain ⟨_, -, rfl⟩ := Option.map_eq_some_iff.1 hq
  exact hlt

end Places

/-! ### Columns of kernels -/

theorem namedColumns_eq_places (header : List (List Char)) :
    namedColumns header = places Kernel.ofName? header := rfl

theorem kernelColumns_eq_places {header : List (List Char)}
    (h : (header.filterMap Kernel.ofName?).Nodup) :
    kernelColumns header = places Kernel.ofName? header := by
  rw [kernelColumns, namedColumns_eq_places]
  apply keepFirst_eq_self
  rwa [map_fst_places]

theorem nodup_kernelColumns (header : List (List Char)) :
    ((kernelColumns header).map (·.1)).Nodup :=
  List.pairwise_map.2 (pairwise_keepFirst _ _)

/-- **The column of a kernel is the first one that names it.** -/
theorem mem_kernelColumns {header : List (List Char)} {place : Kernel × Nat} :
    place ∈ kernelColumns header ↔
      header.findIdx? (fun name => Kernel.ofName? name = some place.1) = some place.2 := by
  obtain ⟨kernel, i⟩ := place
  have hasymm : ∀ p q : Kernel × Nat, p.2 < q.2 → ¬ q.2 < p.2 := fun _ _ => Nat.lt_asymm
  rw [kernelColumns, namedColumns_eq_places,
    mem_keepFirst_iff hasymm (pairwise_places Kernel.ofName? header), mem_places,
    List.findIdx?_eq_some_iff_getElem]
  constructor
  · rintro ⟨⟨name, hi, hname⟩, hfirst⟩
    obtain ⟨hlt, rfl⟩ := List.getElem?_eq_some_iff.1 hi
    refine ⟨hlt, decide_eq_true hname, fun j hj hnamed => ?_⟩
    refine hfirst (kernel, j) (mem_places.2 ⟨_, List.getElem?_eq_getElem (by omega), ?_⟩) rfl hj
    exact of_decide_eq_true hnamed
  · rintro ⟨hlt, hname, hfirst⟩
    refine ⟨⟨_, List.getElem?_eq_getElem hlt, of_decide_eq_true hname⟩, ?_⟩
    rintro ⟨kernel', j⟩ hplace rfl hj
    obtain ⟨name, hname, hnamed⟩ := mem_places.1 hplace
    obtain ⟨hlt, rfl⟩ := List.getElem?_eq_some_iff.1 hname
    exact hfirst j hj (decide_eq_true hnamed)

/-- Kernels that are named once have no further columns. -/
theorem repeatedKernels_eq_nil {header : List (List Char)}
    (h : (header.filterMap Kernel.ofName?).Nodup) : repeatedKernels header = [] := by
  have hkernels : (namedColumns header).map (·.1) = header.filterMap Kernel.ofName? :=
    map_fst_places Kernel.ofName? header
  rw [repeatedKernels, hkernels, List.map_eq_nil_iff, List.filter_eq_nil_iff]
  rintro ⟨kernel, i⟩ hplace hcontains
  have hi := List.mem_zipIdx_iff_getElem?.1 hplace
  obtain ⟨j, hj⟩ := List.mem_iff_getElem?.1 (List.contains_iff_mem.1 hcontains)
  rw [List.getElem?_take] at hj
  split at hj
  · next hlt =>
    have hlength := (List.getElem?_eq_some_iff.1 hi).1
    exact List.nodup_iff_getElem?_ne_getElem?.1 h j i hlt hlength (hj.trans hi.symm)
  · cases hj

/-! ### Lists that correspond -/

section Forall₂

variable {β γ κ : Type} {R : β → γ → Prop} {l : List β} {m : List γ}

theorem findIdx?_eq_of_forall₂ {p : β → Bool} {q : γ → Bool} (h : ∀ b c, R b c → q c = p b)
    (hlm : List.Forall₂ R l m) : m.findIdx? q = l.findIdx? p := by
  induction hlm with
  | nil => rfl
  | cons hR _ ih => rw [List.findIdx?_cons, List.findIdx?_cons, ih, h _ _ hR]

theorem map_eq_of_forall₂ {f : β → κ} {g : γ → κ} (h : ∀ b c, R b c → g c = f b)
    (hlm : List.Forall₂ R l m) : m.map g = l.map f := by
  induction hlm with
  | nil => rfl
  | cons hR _ ih => rw [List.map_cons, List.map_cons, ih, h _ _ hR]

theorem exists_getElem?_of_forall₂ (h : List.Forall₂ R l m) {i : Nat} {b : β} (hi : l[i]? = some b) :
    ∃ c, m[i]? = some c ∧ R b c := by
  induction h generalizing i with
  | nil => cases hi
  | cons hR _ ih =>
    cases i with
    | zero =>
      cases hi
      exact ⟨_, rfl, hR⟩
    | succ i => exact ih hi

theorem forall_right_of_forall₂ {p : γ → Prop} (h : List.Forall₂ R l m) (hp : ∀ b c, R b c → p c) :
    ∀ c ∈ m, p c := by
  induction h with
  | nil => simp
  | cons hR _ ih => exact List.forall_mem_cons.2 ⟨hp _ _ hR, ih⟩

end Forall₂

theorem exists_findIdx?_of_mem {β : Type} [DecidableEq β] {b : β} {l : List β} (h : b ∈ l) :
    ∃ i, l.findIdx? (· = b) = some i ∧ l[i]? = some b := by
  have hsome : (l.findIdx? (· = b)).isSome = true := by
    rw [List.findIdx?_isSome, List.any_eq_true]
    exact ⟨b, h, decide_eq_true rfl⟩
  obtain ⟨i, hi⟩ := Option.isSome_iff_exists.1 hsome
  obtain ⟨hlt, heq, -⟩ := List.findIdx?_eq_some_iff_getElem.1 hi
  refine ⟨i, hi, ?_⟩
  rw [List.getElem?_eq_getElem hlt, of_decide_eq_true heq]

end KernelCharts
