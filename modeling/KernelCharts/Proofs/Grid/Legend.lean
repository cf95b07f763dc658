import KernelCharts.Grid.Figure
import Mathlib.Data.List.Basic
import Mathlib.Data.List.Induction

/-!
# The legend and the panels

One loop over all groups makes the legend, and another one over the kernels of a group draws a panel.
Both take a kernel up exactly if it has a point that is measured and not zero.

* `entries_foldl_register` — a legend after several series are drawn;
* `mem_plottedPoints`, `map_fst_drawn` — the points of a panel, and its kernels;
* `HasLine`, `hasLine_panelMarks_iff` — the lines that a panel draws;
* `firstPanel`, `DrawnBefore` — the order in which kernels are first drawn;
* `legendOf_agrees` — the legend lists the kernels of the panels, each once, in that order.
-/

namespace KernelCharts

/-! ## Registering -/

/-- **Several series append the kernels that are new.** -/
theorem Legend.entries_foldl_register {kernels : List Kernel} (h : kernels.Nodup) (legend : Legend) :
    (kernels.foldl register legend).entries =
      legend.entries ++ kernels.filter fun kernel => kernel ∉ legend.entries := by
  induction kernels generalizing legend with
  | nil => simp
  | cons kernel kernels ih =>
    rw [List.nodup_cons] at h
    rw [List.foldl_cons, ih h.2, register]
    by_cases hmem : kernel ∈ legend
    · have hlisted : kernel ∈ legend.entries := hmem
      rw [if_pos hmem, List.filter_cons_of_neg (by simpa using hlisted)]
    · have hnew : kernel ∉ legend.entries := hmem
      -- the kernel itself does not come again, so it takes nothing away from the rest
      have hrest : (kernels.filter fun other => other ∉ legend.entries ++ [kernel]) =
          kernels.filter fun other => other ∉ legend.entries := by
        apply List.filter_congr
        intro other hother
        have hne : other ≠ kernel := by
          rintro rfl
          exact h.1 hother
        simp [hne]
      rw [if_neg hmem, List.filter_cons_of_pos (by simpa using hnew)]
      simp only [hrest, List.append_assoc, List.singleton_append]

namespace Grid

variable {α : Type} [Scalar α] {g : ChartGroup α} {kernel : Kernel}

/-! ## Points -/

theorem mem_plottedPoints {x y : α} : (x, y) ∈ plottedPoints g kernel ↔
    ∃ values, g.series.get? kernel = some values ∧ (x, some y) ∈ g.nnz.zip values ∧ (y == 0.0) = false := by
  rw [plottedPoints, List.mem_filter, ChartGroup.points]
  cases g.series.get? kernel with
  | none => simp
  | some values =>
    simp only [Option.some.injEq, exists_eq_left', Bool.not_eq_true', and_congr_left_iff]
    intro _
    rw [List.mem_filterMap]
    constructor
    · rintro ⟨⟨x', value⟩, hmem, hpoint⟩
      obtain ⟨y', rfl, heq⟩ := Option.map_eq_some_iff.1 hpoint
      cases heq
      exact hmem
    · intro hmem
      exact ⟨_, hmem, rfl⟩

theorem plottedPoints_eq_nil_of_zeros (h : ∀ values, g.series.get? kernel = some values →
    ∀ value ∈ values, ∀ y, value = some y → (y == 0.0) = true) : plottedPoints g kernel = [] := by
  rw [List.eq_nil_iff_forall_not_mem]
  rintro ⟨x, y⟩ hpoint
  obtain ⟨values, hvalues, hmem, hzero⟩ := mem_plottedPoints.1 hpoint
  rw [h values hvalues _ (List.of_mem_zip hmem).2 y rfl] at hzero
  cases hzero

/-- **The kernels of a panel** are those of the catalogue that have a point. -/
theorem map_fst_drawn (g : ChartGroup α) :
    (drawn g).map (·.1) = Kernel.all.filter fun kernel => plottedPoints g kernel ≠ [] := by
  have hlisted : ∀ kernel, plottedPoints g kernel ≠ [] → (g.series.get? kernel).isSome = true := by
    intro kernel hne
    obtain ⟨⟨x, y⟩, hpoint⟩ := List.exists_mem_of_ne_nil _ hne
    obtain ⟨values, hvalues, -⟩ := mem_plottedPoints.1 hpoint
    rw [hvalues]
    rfl
  rw [drawn, KernelMap.keys, List.filter_map, List.map_map, List.filter_filter]
  have hmap : ∀ l : List Kernel,
      l.map ((fun entry : Kernel × List (α × α) => entry.1) ∘ fun kernel => (kernel, plottedPoints g kernel)) =
        l := by
    intro l
    simp [Function.comp_def]
  rw [hmap]
  apply List.filter_congr
  intro kernel _
  rw [Bool.eq_iff_iff]
  simp only [Function.comp_apply, Bool.and_eq_true, Bool.not_eq_true', List.isEmpty_eq_false_iff,
    decide_eq_true_eq]
  exact and_iff_left_of_imp (hlisted kernel)

theorem mem_map_fst_drawn : kernel ∈ (drawn g).map (·.1) ↔ plottedPoints g kernel ≠ [] := by
  rw [map_fst_drawn, List.mem_filter, decide_eq_true_eq]
  exact and_iff_right (Kernel.mem_all kernel)

theorem pairwise_drawn (g : ChartGroup α) :
    ((drawn g).map (·.1)).Pairwise fun a b => a.rank < b.rank := by
  rw [map_fst_drawn]
  exact Kernel.pairwise_all.filter _

theorem nodup_drawn (g : ChartGroup α) : ((drawn g).map (·.1)).Nodup := by
  refine (pairwise_drawn g).imp ?_
  rintro a _ hlt rfl
  exact Nat.lt_irrefl _ hlt

/-! ## Lines -/

/-- The marks have a line in the color of a kernel. -/
def HasLine (marks : List Mark) (kernel : Kernel) : Prop :=
  ∃ points ink stroke, Mark.path points ink stroke ∈ marks ∧ ink.color = kernel.style.color

theorem color_inj {a b : Kernel} (h : a.style.color = b.style.color) : a = b := by
  have hcolors : ∀ a ∈ Kernel.all, ∀ b ∈ Kernel.all, a.style.color = b.style.color → a = b := by decide
  exact hcolors a (Kernel.mem_all a) b (Kernel.mem_all b) h

theorem path_not_mem_marks {marker : Marker} {center : Pixel} {size : Int} {ink ink' : Ink}
    {points : List Pixel} {stroke : Nat} :
    Mark.path points ink' stroke ∉ marker.marks center size ink := by
  cases marker <;> simp [Marker.marks]

theorem path_not_mem_frame {frame : Frame α} {points : List Pixel} {ink : Ink} {stroke : Nat} :
    Mark.path points ink stroke ∉ frame.marks := by
  simp [Frame.marks, Frame.captionMark, Frame.titleLeftMark, Frame.titleBelowMark, Frame.tickMark]

theorem path_mem_seriesMarks {frame : Frame α} {canvas : Canvas} {named : Kernel} {drawn : List (α × α)}
    {points : List Pixel} {ink : Ink} {stroke : Nat}
    (h : Mark.path points ink stroke ∈ seriesMarks frame canvas named drawn) :
    ink.color = named.style.color := by
  rw [seriesMarks, List.mem_cons] at h
  rcases h with hline | hglyph
  · cases hline
    rfl
  · -- a glyph is no line, so only the line between the points is left
    obtain ⟨point, -, hmark⟩ := List.mem_flatMap.1 hglyph
    exact absurd hmark path_not_mem_marks

/-- **A panel draws a line for exactly the kernels that have a point.** -/
theorem hasLine_panelMarks_iff {cell : GridCell} {canvas : Canvas} {region : Region} :
    HasLine (panelMarks g cell canvas region) kernel ↔ plottedPoints g kernel ≠ [] := by
  have hdrawn : ∀ entry : Kernel × List (α × α), entry ∈ drawn g → plottedPoints g entry.1 ≠ [] := by
    intro entry hentry
    exact mem_map_fst_drawn.1 (List.mem_map_of_mem hentry)
  constructor
  · rintro ⟨points, ink, stroke, hmark, hcolor⟩
    rcases List.mem_append.1 hmark with hframe | hseries
    · exact absurd hframe path_not_mem_frame
    · -- the color tells whose line it is
      obtain ⟨entry, hentry, hline⟩ := List.mem_flatMap.1 hseries
      rw [path_mem_seriesMarks hline] at hcolor
      rw [← color_inj hcolor]
      exact hdrawn entry hentry
  · intro hne
    obtain ⟨entry, hentry, rfl⟩ := List.mem_map.1 (mem_map_fst_drawn.2 hne)
    refine ⟨entry.2.map (panelFrame g cell canvas region).pixel, ⟨entry.1.style.color, alpha⟩,
      canvas.pt (1.0 : α), ?_, rfl⟩
    exact List.mem_append_right _ (List.mem_flatMap.2 ⟨entry, hentry, List.mem_cons_self⟩)

/-! ## The order of drawing -/

/-- the first panel that draws a kernel, or the number of panels if none does -/
def firstPanel (groups : List (ChartGroup α)) (kernel : Kernel) : Nat :=
  groups.findIdx fun g => plottedPoints g kernel ≠ []

/-- The first kernel is drawn earlier: in an earlier panel, or earlier in the same one. -/
def DrawnBefore (groups : List (ChartGroup α)) (a b : Kernel) : Prop :=
  firstPanel groups a < firstPanel groups b ∨
    firstPanel groups a = firstPanel groups b ∧ a.rank < b.rank

theorem DrawnBefore.asymm {groups : List (ChartGroup α)} {a b : Kernel} (h : DrawnBefore groups a b) :
    ¬ DrawnBefore groups b a := by
  unfold DrawnBefore at *
  omega

theorem legendOf_append (groups : List (ChartGroup α)) (g : ChartGroup α) :
    (legendOf (groups ++ [g])).entries = (legendOf groups).entries ++
      ((drawn g).map (·.1)).filter fun kernel => kernel ∉ (legendOf groups).entries := by
  rw [legendOf, List.flatMap_append, List.foldl_append, List.flatMap_singleton]
  exact Legend.entries_foldl_register (nodup_drawn g) _

theorem mem_legendOf {groups : List (ChartGroup α)} :
    kernel ∈ legendOf groups ↔ ∃ g ∈ groups, plottedPoints g kernel ≠ [] := by
  change kernel ∈ (legendOf groups).entries ↔ _
  induction groups using List.reverseRecOn with
  | nil => simp [legendOf, EmptyCollection.emptyCollection, Legend.empty]
  | append_singleton groups g ih =>
    rw [legendOf_append, List.mem_append, List.mem_filter, mem_map_fst_drawn, decide_eq_true_eq]
    simp only [List.mem_append, List.mem_singleton, or_and_right, exists_or, exists_eq_left, ← ih]
    by_cases hmem : kernel ∈ (legendOf groups).entries
    · simp [hmem]
    · simp [hmem]

section

variable {groups : List (ChartGroup α)}

theorem firstPanel_lt (h : kernel ∈ legendOf groups) : firstPanel groups kernel < groups.length := by
  obtain ⟨g, hg, hne⟩ := mem_legendOf.1 h
  exact List.findIdx_lt_length_of_exists ⟨g, hg, decide_eq_true hne⟩

theorem firstPanel_append_of_mem (h : kernel ∈ legendOf groups) (g : ChartGroup α) :
    firstPanel (groups ++ [g]) kernel = firstPanel groups kernel := by
  rw [firstPanel, List.findIdx_append]
  exact if_pos (firstPanel_lt h)

theorem firstPanel_append_of_not_mem (h : kernel ∉ legendOf groups) (hg : plottedPoints g kernel ≠ []) :
    firstPanel (groups ++ [g]) kernel = groups.length := by
  have hnone : ¬ groups.findIdx (fun g => plottedPoints g kernel ≠ []) < groups.length := by
    intro hlt
    have hfound := List.findIdx_getElem (w := hlt)
    exact h (mem_legendOf.2 ⟨_, List.getElem_mem hlt, of_decide_eq_true hfound⟩)
  rw [firstPanel, List.findIdx_append, if_neg hnone, List.findIdx_cons, decide_eq_true hg]
  simp

/-- **The legend is in the order of drawing.**  The kernels that a panel adds come after all that were
drawn before it, and among them the catalogue decides. -/
theorem pairwise_legendOf (groups : List (ChartGroup α)) :
    (legendOf groups).entries.Pairwise (DrawnBefore groups) := by
  induction groups using List.reverseRecOn with
  | nil => exact .nil
  | append_singleton groups g ih =>
    have hnew : ∀ b ∈ ((drawn g).map (·.1)).filter fun kernel => kernel ∉ (legendOf groups).entries,
        firstPanel (groups ++ [g]) b = groups.length := by
      intro b hb
      rw [List.mem_filter, mem_map_fst_drawn, decide_eq_true_eq] at hb
      exact firstPanel_append_of_not_mem hb.2 hb.1
    rw [legendOf_append, List.pairwise_append]
    refine ⟨?_, ?_, ?_⟩
    · refine ih.imp_of_mem ?_
      intro a b ha hb hbefore
      rw [DrawnBefore, firstPanel_append_of_mem ha, firstPanel_append_of_mem hb]
      exact hbefore
    · refine ((pairwise_drawn g).filter _).imp_of_mem ?_
      intro a b ha hb hlt
      exact .inr ⟨(hnew a ha).trans (hnew b hb).symm, hlt⟩
    · intro a ha b hb
      left
      rw [firstPanel_append_of_mem ha, hnew b hb]
      exact firstPanel_lt ha

end

theorem idxOf_lt_idxOf_iff {β : Type} [DecidableEq β] {R : β → β → Prop} {l : List β} (h : l.Pairwise R)
    (hasymm : ∀ a b, R a b → ¬ R b a) {a b : β} (ha : a ∈ l) (hb : b ∈ l) :
    l.idxOf a < l.idxOf b ↔ R a b := by
  have hbefore : ∀ {a b}, a ∈ l → b ∈ l → l.idxOf a < l.idxOf b → R a b := by
    intro a b ha hb hlt
    have hR := List.pairwise_iff_getElem.1 h _ _ (List.idxOf_lt_length_of_mem ha)
      (List.idxOf_lt_length_of_mem hb) hlt
    rwa [List.getElem_idxOf, List.getElem_idxOf] at hR
  refine ⟨hbefore ha hb, ?_⟩
  intro hR
  rcases Nat.lt_trichotomy (l.idxOf a) (l.idxOf b) with hlt | heq | hgt
  · exact hlt
  · have hab : a = b := (List.idxOf_inj ha).1 heq
    subst hab
    exact absurd hR (hasymm a a hR)
  · exact absurd hR (hasymm b a (hbefore hb ha hgt))

/-! ## The legend -/

/-- The legend lists the kernels that the panels draw, each once, in the order in which they are first
drawn. -/
structure LegendAgrees (groups : List (ChartGroup Float)) : Prop where
  distinct : (legendOf groups).entries.Nodup
  drawn : ∀ kernel, kernel ∈ legendOf groups ↔ ∃ g ∈ groups, plottedPoints g kernel ≠ []
  lines : ∀ (g : ChartGroup Float) cell canvas region kernel,
    HasLine (panelMarks g cell canvas region) kernel ↔ plottedPoints g kernel ≠ []
  zeros : ∀ kernel, (∀ g ∈ groups, ∀ values, g.series.get? kernel = some values → ∀ value ∈ values,
    value = none ∨ value = some 0.0 ∨ value = some (-0.0)) → kernel ∉ legendOf groups
  order : ∀ a ∈ legendOf groups, ∀ b ∈ legendOf groups,
    (legendOf groups).entries.idxOf a < (legendOf groups).entries.idxOf b ↔ DrawnBefore groups a b

/-- **The legend and the panels agree**, for all groups. -/
theorem legendOf_agrees (groups : List (ChartGroup Float)) : LegendAgrees groups := by
  constructor
  case distinct =>
    refine (pairwise_legendOf groups).imp ?_
    rintro a _ hbefore rfl
    exact hbefore.asymm hbefore
  case drawn => exact fun kernel => mem_legendOf
  case lines => exact fun g cell canvas region kernel => hasLine_panelMarks_iff
  case zeros =>
    intro kernel hzeros hmem
    obtain ⟨g, hg, hne⟩ := mem_legendOf.1 hmem
    refine hne (plottedPoints_eq_nil_of_zeros ?_)
    rintro values hvalues value hvalue y rfl
    rcases hzeros g hg values hvalues _ hvalue with hy | hy | hy
    · cases hy
    · cases hy
      decide
    · cases hy
      decide
  case order =>
    intro a ha b hb
    exact idxOf_lt_idxOf_iff (pairwise_legendOf groups) (fun _ _ => DrawnBefore.asymm) ha hb

end Grid

end KernelCharts
