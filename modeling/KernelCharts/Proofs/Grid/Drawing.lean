import KernelCharts.Grid.Plot
import KernelCharts.Proofs.Chart.Panels
import KernelCharts.Proofs.Grid.Legend

/-!
# What a grid figure draws

The colors of the kernels tell their marks apart, so what a panel or the legend shows of a kernel is what it has in
the color of that kernel.

* `inColor` — the marks of a color, with what there is of them in glyphs, frames and legend entries;
* `inColor_panelMarks` — a panel has, in the color of a kernel, a line and a glyph for each point;
* `map_fst_legendPlaces`, `inColor_legendMarks` — the legend has one entry for each of its kernels;
* `drawing_eq` — the panels of a figure, each in its slot;
* `Shows`, `figure_shows` — all that a figure shows.
-/

namespace KernelCharts

/-! ## Colors -/

/-- the color of a mark; texts have none of their own -/
def Mark.color? : Mark → Option Color
  | rect _ _ ink _ => some ink.color
  | path _ ink _ => some ink.color
  | polygon _ ink => some ink.color
  | circle _ _ ink _ => some ink.color
  | line _ _ ink _ => some ink.color
  | label _ _ => none

/-- the lines through points among some marks -/
def paths (marks : List Mark) : List Mark := marks.filter fun | .path _ _ _ => true | _ => false

def inColor (color : Color) (marks : List Mark) : List Mark := marks.filter fun mark => mark.color? = some color

theorem inColor_append (color : Color) (before after : List Mark) :
    inColor color (before ++ after) = inColor color before ++ inColor color after := List.filter_append before after

theorem inColor_flatMap {β : Type} (color : Color) (l : List β) (f : β → List Mark) :
    inColor color (l.flatMap f) = l.flatMap fun b => inColor color (f b) := List.filter_flatMap

theorem inColor_eq_self {color : Color} {marks : List Mark} (h : ∀ mark ∈ marks, mark.color? = some color) :
    inColor color marks = marks := by
  rw [inColor, List.filter_eq_self]
  exact fun mark hmark => decide_eq_true (h mark hmark)

theorem inColor_eq_nil {color : Color} {marks : List Mark} (h : ∀ mark ∈ marks, mark.color? ≠ some color) :
    inColor color marks = [] := by
  rw [inColor, List.filter_eq_nil_iff]
  exact fun mark hmark => by simpa using h mark hmark

theorem color?_of_mem_marks {marker : Marker} {center : Pixel} {size : Int} {ink : Ink} {mark : Mark}
    (h : mark ∈ marker.marks center size ink) : mark.color? = some ink.color := by
  cases marker <;> simp_all [Marker.marks, Mark.color?]
  rcases h with rfl | rfl <;> rfl

theorem inColor_marks_self (marker : Marker) (center : Pixel) (size : Int) (ink : Ink) :
    inColor ink.color (marker.marks center size ink) = marker.marks center size ink :=
  inColor_eq_self fun _ => color?_of_mem_marks

theorem inColor_frame {α : Type} [Scalar α] (color : Color) (frame : Frame α) : inColor color frame.marks = [] := by
  refine inColor_eq_nil ?_
  intro mark hmark
  have htext : mark.color? = none := by
    simp only [Frame.marks, List.mem_append, List.mem_singleton, List.mem_map] at hmark
    rcases hmark with ((rfl | ⟨_, -, rfl⟩) | ⟨_, -, rfl⟩) | ⟨_, -, rfl⟩ <;> rfl
  rw [htext]
  exact Option.some_ne_none color |>.symm

/-- In a list with different keys, what belongs to one key comes from its one element. -/
theorem flatMap_eq_of_key {β κ γ : Type} {l : List β} {key : β → κ} (hnodup : (l.map key).Nodup) {f : β → List γ}
    {b : β} (hb : b ∈ l) (hother : ∀ c ∈ l, key c ≠ key b → f c = []) : l.flatMap f = f b := by
  obtain ⟨before, after, rfl⟩ := List.append_of_mem hb
  rw [List.map_append, List.map_cons, List.nodup_append, List.nodup_cons] at hnodup
  obtain ⟨-, ⟨hafter, -⟩, hbefore⟩ := hnodup
  have hleft : before.flatMap f = [] := by
    rw [List.flatMap_eq_nil_iff]
    intro c hc
    exact hother c (by simp [hc]) (hbefore _ (List.mem_map_of_mem hc) _ List.mem_cons_self)
  have hright : after.flatMap f = [] := by
    rw [List.flatMap_eq_nil_iff]
    intro c hc
    refine hother c (by simp [hc]) ?_
    intro heq
    exact hafter (heq ▸ List.mem_map_of_mem hc)
  rw [List.flatMap_append, List.flatMap_cons, hleft, hright, List.nil_append, List.append_nil]

theorem marker_inj {a b : Kernel} (h : a.style.marker = b.style.marker) : a = b := by
  have hmarkers : ∀ a ∈ Kernel.all, ∀ b ∈ Kernel.all, a.style.marker = b.style.marker → a = b := by decide
  exact hmarkers a (Kernel.mem_all a) b (Kernel.mem_all b) h

namespace Grid

variable {α : Type} [Scalar α]

/-! ## Panels -/

/-- the kernels with a point, in the order of the catalogue -/
def shown (g : ChartGroup α) : List Kernel := Kernel.all.filter fun kernel => plottedPoints g kernel ≠ []

def seriesInk (kernel : Kernel) : Ink := ⟨kernel.style.color, alpha⟩

def lineMark (g : ChartGroup α) (frame : Frame α) (canvas : Canvas) (kernel : Kernel) : Mark :=
  .path ((plottedPoints g kernel).map frame.pixel) (seriesInk kernel) (canvas.pt (1.0 : α))

def glyphMarks (frame : Frame α) (canvas : Canvas) (kernel : Kernel) (point : α × α) : List Mark :=
  kernel.style.marker.marks (frame.pixel point) (canvas.pt (1.5 : α)) (seriesInk kernel)

/-- the line of a kernel and the glyphs of its points -/
def kernelMarks (g : ChartGroup α) (frame : Frame α) (canvas : Canvas) (kernel : Kernel) : List Mark :=
  lineMark g frame canvas kernel :: (plottedPoints g kernel).flatMap (glyphMarks frame canvas kernel)

theorem drawn_eq (g : ChartGroup α) : drawn g = (shown g).map fun kernel => (kernel, plottedPoints g kernel) := by
  have hpoints : ∀ entry ∈ drawn g, entry = (entry.1, plottedPoints g entry.1) := by
    intro entry hentry
    obtain ⟨kernel, -, rfl⟩ := List.mem_map.1 (List.mem_of_mem_filter hentry)
    rfl
  rw [shown, ← map_fst_drawn, List.map_map]
  conv_lhs => rw [← List.map_id (drawn g)]
  exact List.map_congr_left hpoints

theorem panelMarks_eq (g : ChartGroup α) (cell : GridCell) (canvas : Canvas) (region : Region) :
    panelMarks g cell canvas region = (panelFrame g cell canvas region).marks ++
      (shown g).flatMap (kernelMarks g (panelFrame g cell canvas region) canvas) := by
  unfold panelMarks
  dsimp only
  rw [drawn_eq, List.flatMap_map]
  rfl

theorem color?_of_mem_kernelMarks {g : ChartGroup α} {frame : Frame α} {canvas : Canvas} {kernel : Kernel}
    {mark : Mark} (h : mark ∈ kernelMarks g frame canvas kernel) : mark.color? = some kernel.style.color := by
  rcases List.mem_cons.1 h with rfl | hglyph
  · rfl
  · obtain ⟨point, -, hmark⟩ := List.mem_flatMap.1 hglyph
    exact color?_of_mem_marks hmark

theorem inColor_kernelMarks_of_ne {g : ChartGroup α} {frame : Frame α} {canvas : Canvas} {kernel other : Kernel}
    (h : other ≠ kernel) : inColor kernel.style.color (kernelMarks g frame canvas other) = [] := by
  refine inColor_eq_nil ?_
  intro mark hmark hcolor
  rw [color?_of_mem_kernelMarks hmark, Option.some.injEq] at hcolor
  exact h (color_inj hcolor)

/-- **What a panel shows of a kernel**: a line and a glyph for each point, or nothing. -/
theorem inColor_panelMarks (g : ChartGroup α) (cell : GridCell) (canvas : Canvas) (region : Region)
    (kernel : Kernel) : inColor kernel.style.color (panelMarks g cell canvas region) =
      if plottedPoints g kernel = [] then []
      else kernelMarks g (panelFrame g cell canvas region) canvas kernel := by
  rw [panelMarks_eq, inColor_append, inColor_frame, List.nil_append, inColor_flatMap]
  split
  · next hnil =>
    rw [List.flatMap_eq_nil_iff]
    intro other hother
    refine inColor_kernelMarks_of_ne ?_
    rintro rfl
    rw [shown, List.mem_filter, decide_eq_true_eq] at hother
    exact hother.2 hnil
  · next hne =>
    have hkernel : kernel ∈ shown g := List.mem_filter.2 ⟨Kernel.mem_all kernel, decide_eq_true hne⟩
    have hnodup : ((shown g).map id).Nodup := by
      rw [List.map_id, shown, ← map_fst_drawn]
      exact nodup_drawn g
    refine (flatMap_eq_of_key hnodup hkernel ?_).trans ?_
    · exact fun other _ hother => inColor_kernelMarks_of_ne hother
    · exact inColor_eq_self fun _ => color?_of_mem_kernelMarks

theorem paths_kernelMarks (g : ChartGroup α) (frame : Frame α) (canvas : Canvas) (kernel : Kernel) :
    paths (kernelMarks g frame canvas kernel) = [lineMark g frame canvas kernel] := by
  have hglyphs : paths ((plottedPoints g kernel).flatMap (glyphMarks frame canvas kernel)) = [] := by
    rw [paths, List.filter_flatMap, List.flatMap_eq_nil_iff]
    intro point _
    unfold glyphMarks
    cases kernel.style.marker <;> rfl
  have hline : paths (kernelMarks g frame canvas kernel) = lineMark g frame canvas kernel ::
      paths ((plottedPoints g kernel).flatMap (glyphMarks frame canvas kernel)) := rfl
  rw [hline, hglyphs]

theorem paths_frame (frame : Frame α) : paths frame.marks = [] := by
  rw [paths, List.filter_eq_nil_iff]
  intro mark hmark
  cases mark with
  | path => exact absurd hmark path_not_mem_frame
  | rect => exact Bool.false_ne_true
  | polygon => exact Bool.false_ne_true
  | circle => exact Bool.false_ne_true
  | line => exact Bool.false_ne_true
  | label => exact Bool.false_ne_true

/-- **The lines of a panel**: one for each kernel with a point, in the order of the catalogue. -/
theorem paths_panelMarks (g : ChartGroup α) (cell : GridCell) (canvas : Canvas) (region : Region) :
    paths (panelMarks g cell canvas region) =
      (shown g).map (lineMark g (panelFrame g cell canvas region) canvas) := by
  have hflatMap : ∀ kernels : List Kernel,
      paths (kernels.flatMap (kernelMarks g (panelFrame g cell canvas region) canvas)) =
        kernels.map (lineMark g (panelFrame g cell canvas region) canvas) := by
    intro kernels
    rw [paths, List.filter_flatMap, List.map_eq_flatMap]
    exact List.flatMap_congr fun kernel _ => paths_kernelMarks g _ canvas kernel
  rw [panelMarks_eq, paths, List.filter_append, ← paths, ← paths, paths_frame, List.nil_append, hflatMap]

/-! ## The legend -/

/-- The pieces of a list make up the list. -/
theorem flatten_chunks {β : Type} {n : Nat} (h : 0 < n) (xs : List β) : (chunks n xs).flatten = xs := by
  have hpieces : ∀ m, ((List.range m).map fun i => (xs.drop (i * n)).take n).flatten = xs.take (m * n) := by
    intro m
    induction m with
    | zero => simp
    | succ m ih =>
      rw [List.range_succ, List.map_append, List.flatten_append, ih, List.map_singleton, List.flatten_singleton,
        Nat.succ_mul, List.take_add]
  rw [chunks, hpieces, List.take_of_length_le]
  have hlt := Nat.lt_div_mul_add h (a := xs.length + n - 1)
  omega

theorem length_leftEdges (spacing x : Int) (widths : List Int) :
    (leftEdges spacing x widths).length = widths.length := by
  induction widths generalizing x with
  | nil => rfl
  | cons width widths ih => rw [leftEdges, List.length_cons, ih, List.length_cons]

/-- **The legend has one place for each of its kernels**, in their order. -/
theorem map_fst_legendPlaces (area spacing rowHeight : Int) (width : Kernel → Int) (legend : Legend) :
    (legendPlaces area spacing rowHeight width legend).map (·.1) = legend.entries := by
  have hrow : ∀ entries : List Kernel,
      (entries.zip (rowEdges area spacing (entries.map width))).map (·.1) = entries := by
    intro entries
    have hlength : (rowEdges area spacing (entries.map width)).length = entries.length := by
      rw [rowEdges, length_leftEdges, List.length_map]
    exact List.map_fst_zip (Nat.le_of_eq hlength.symm)
  unfold legendPlaces
  dsimp only
  rw [List.map_flatMap]
  simp only [List.map_map, Function.comp_def, hrow]
  rw [List.flatMap_def, List.zipIdx_map_fst, flatten_chunks (by decide)]

theorem nodup_legendOf (groups : List (ChartGroup α)) : (legendOf groups).entries.Nodup := by
  refine (pairwise_legendOf groups).imp ?_
  rintro a _ hbefore rfl
  exact hbefore.asymm hbefore

/-- The marks of an entry in the color of its kernel are a piece of line with a glyph. -/
theorem inColor_entry (style : LegendStyle) (kernel : Kernel) (x y : Int) :
    inColor kernel.style.color (style.marks kernel x y) =
      .path [⟨x, y⟩, ⟨x + style.swatch, y⟩] ⟨kernel.style.color, style.alpha⟩ style.lineWidth ::
        kernel.style.marker.marks ⟨x + style.swatch.tdiv 2, y⟩ style.markerSize ⟨kernel.style.color, style.alpha⟩ := by
  have hglyph := inColor_marks_self kernel.style.marker ⟨x + style.swatch.tdiv 2, y⟩ style.markerSize
    ⟨kernel.style.color, style.alpha⟩
  unfold LegendStyle.marks
  dsimp only at hglyph ⊢
  rw [inColor_append, inColor_append, hglyph]
  simp [inColor, Mark.color?]

theorem inColor_entry_of_ne {style : LegendStyle} {kernel other : Kernel} (h : other ≠ kernel) (x y : Int) :
    inColor kernel.style.color (style.marks other x y) = [] := by
  have hne : other.style.color ≠ kernel.style.color := fun heq => h (color_inj heq)
  refine inColor_eq_nil ?_
  intro mark hmark hcolor
  simp only [LegendStyle.marks, List.mem_append, List.mem_singleton] at hmark
  rcases hmark with (rfl | hglyph) | rfl
  · exact hne (Option.some.inj hcolor)
  · rw [color?_of_mem_marks hglyph] at hcolor
    exact hne (Option.some.inj hcolor)
  · cases hcolor

/-- The marks are a legend of some kernels: an entry for each of them, in the color and with the glyph that the
panels use. -/
structure LegendShows (legend : Legend) (marks : List Mark) : Prop where
  entries : ∃ style : LegendStyle, ∃ places : List (Kernel × Pixel), places.map (·.1) = legend.entries ∧
    marks = places.flatMap fun (kernel, place) => style.marks kernel place.x place.y
  colored : ∀ kernel ∈ legend, ∃ first last center stroke size, inColor kernel.style.color marks =
    .path [first, last] (seriesInk kernel) stroke :: kernel.style.marker.marks center size (seriesInk kernel)
  blank : ∀ kernel, kernel ∉ legend → inColor kernel.style.color marks = []

theorem exists_legendMarks_eq (area : Region) (legend : Legend) (canvas : Canvas) :
    ∃ style : LegendStyle, style.alpha = alpha ∧ ∃ places : List (Kernel × Pixel),
      places.map (·.1) = legend.entries ∧
      legendMarks α area legend canvas = places.flatMap fun (kernel, place) => style.marks kernel place.x place.y := by
  let style := LegendStyle.ofCanvas α canvas alpha (canvas.pt (11.0 : α))
  let places := legendPlaces (area.right - area.left) (canvas.pt (16.0 : α))
    (canvas.pt (legendRowHeight * 72.0 : α)) style.width legend
  refine ⟨style, rfl, places.map fun (kernel, place) => (kernel, area.corner + place), ?_, ?_⟩
  · rw [List.map_map]
    exact map_fst_legendPlaces _ _ _ _ legend
  · rw [List.flatMap_map]
    rfl

theorem legendShows_legendMarks {legend : Legend} (hnodup : legend.entries.Nodup) (area : Region) (canvas : Canvas) :
    LegendShows legend (legendMarks α area legend canvas) := by
  obtain ⟨style, halpha, places, hplaces, hmarks⟩ := exists_legendMarks_eq (α := α) area legend canvas
  constructor
  case entries => exact ⟨style, places, hplaces, hmarks⟩
  case colored =>
    intro kernel hkernel
    have hmem : kernel ∈ places.map (·.1) := hplaces ▸ hkernel
    obtain ⟨⟨_, place⟩, hplace, rfl⟩ := List.mem_map.1 hmem
    rw [← hplaces] at hnodup
    rw [hmarks, inColor_flatMap, flatMap_eq_of_key hnodup hplace fun other _ hother => inColor_entry_of_ne hother _ _,
      inColor_entry, halpha]
    exact ⟨_, _, _, _, _, rfl⟩
  case blank =>
    intro kernel hkernel
    rw [hmarks, inColor_flatMap, List.flatMap_eq_nil_iff]
    intro other hother
    refine inColor_entry_of_ne ?_ _ _
    rintro rfl
    have hmem : other.1 ∈ places.map (·.1) := List.mem_map_of_mem hother
    rw [hplaces] at hmem
    exact hkernel hmem

/-! ## Figures -/

section

variable (groups : List (ChartGroup α)) (layout : GridLayout) (canvas : Canvas)

def surface : Region := .ofSize (canvas.inches (size layout (legendOf groups) : α × α))

def band : Region := ((surface groups layout canvas).splitTop (legendBand α (legendOf groups) canvas)).1

def body : Region := ((surface groups layout canvas).splitTop (legendBand α (legendOf groups) canvas)).2

def panelSlot (index : Nat) : Region :=
  (body groups layout canvas).slot layout.rows layout.cols (index / layout.cols) (index % layout.cols)

/-- the chart around the lines of a panel of the figure -/
def frameOf (index : Nat) (g : ChartGroup α) : Frame α :=
  panelFrame g (layout.cell index) canvas (panelSlot groups layout canvas index)

def panelOf (index : Nat) (g : ChartGroup α) : List Mark :=
  panelMarks g (layout.cell index) canvas (panelSlot groups layout canvas index)

variable {groups layout}

theorem flatMap_range_getElem? {β γ : Type} (l : List β) (f : Nat → β → List γ) :
    ((List.range l.length).flatMap fun i => l[i]?.elim [] (f i)) = l.zipIdx.flatMap fun (b, i) => f i b := by
  rw [List.flatMap_def, List.flatMap_def]
  congr 1
  refine List.ext_getElem (by simp) ?_
  intro i _ hi
  have hi : i < l.length := by simpa using hi
  simp [hi]

/-- **The panels of a figure** follow each other after the legend, each in its slot. -/
theorem drawing_eq (hpanels : layout.panels = groups.length) (hroom : groups.length ≤ layout.rows * layout.cols) :
    drawing groups layout (legendOf groups) canvas =
      [.rect (surface groups layout canvas).corner
        ⟨(surface groups layout canvas).right, (surface groups layout canvas).bottom⟩ Color.white.solid true] ++
      legendMarks α (band groups layout canvas) (legendOf groups) canvas ++
      groups.zipIdx.flatMap fun (g, index) => panelOf groups layout canvas index g := by
  have hslot : ∀ index < groups.length, ((body groups layout canvas).splitEvenly layout.rows layout.cols)[index]? =
      some (panelSlot groups layout canvas index) := by
    intro index hindex
    exact Region.getElem?_splitEvenly _ (Nat.lt_of_lt_of_le hindex hroom)
  rw [← flatMap_range_getElem?, ← hpanels]
  unfold drawing
  dsimp only
  rw [GridLayout.cells, List.flatMap_map]
  congr 1
  refine List.flatMap_congr ?_
  intro index hindex
  rw [hpanels, List.mem_range] at hindex
  have hcell : (layout.cell index).index = index := rfl
  have hg := List.getElem?_eq_getElem hindex
  have hslot := hslot index hindex
  unfold body surface at hslot
  rw [hcell, hg, hslot]
  rfl

/-- A panel shows a chart: the points of its kernels. -/
structure PanelShows (g : ChartGroup α) (frame : Frame α) (marks : List Mark) : Prop where
  caption : frame.caption = "K = " ++ toString g.k
  /-- the kernels with a point follow each other in the order of the catalogue, each with its line and its glyphs -/
  series : marks = frame.marks ++ (shown g).flatMap (kernelMarks g frame canvas)
  lines : paths marks = (shown g).map (lineMark g frame canvas)
  colored : ∀ kernel, inColor kernel.style.color marks =
    if plottedPoints g kernel = [] then [] else kernelMarks g frame canvas kernel

theorem panelShows_panelMarks (g : ChartGroup α) (cell : GridCell) (region : Region) :
    PanelShows canvas g (panelFrame g cell canvas region) (panelMarks g cell canvas region) where
  caption := rfl
  series := panelMarks_eq g cell canvas region
  lines := paths_panelMarks g cell canvas region
  colored := inColor_panelMarks g cell canvas region

variable (groups layout)

/-- A figure shows some charts, each in a panel of its own, and a legend. -/
structure Shows (marks : List Mark) : Prop where
  /-- the panels follow each other after the paper and the legend -/
  marks_eq : marks =
    [.rect (surface groups layout canvas).corner
      ⟨(surface groups layout canvas).right, (surface groups layout canvas).bottom⟩ Color.white.solid true] ++
    legendMarks α (band groups layout canvas) (legendOf groups) canvas ++
    groups.zipIdx.flatMap fun (g, index) => panelOf groups layout canvas index g
  room : groups.length ≤ layout.rows * layout.cols
  /-- if the band leaves room for panels, they do not overlap -/
  apart : (body groups layout canvas).top ≤ (body groups layout canvas).bottom → ∀ i j, i < j →
    (panelSlot groups layout canvas i).bottom ≤ (panelSlot groups layout canvas j).top ∨
      (panelSlot groups layout canvas i).right ≤ (panelSlot groups layout canvas j).left
  panel : ∀ (index : Nat) (g : ChartGroup α), groups[index]? = some g →
    PanelShows canvas g (frameOf groups layout canvas index g) (panelOf groups layout canvas index g)
  legend : LegendShows (legendOf groups) (legendMarks α (band groups layout canvas) (legendOf groups) canvas)
  listed : ∀ kernel, kernel ∈ legendOf groups ↔ ∃ g ∈ groups, plottedPoints g kernel ≠ []
  /-- all that the figure has in the color of a kernel -/
  colored : ∀ kernel, inColor kernel.style.color marks =
    inColor kernel.style.color (legendMarks α (band groups layout canvas) (legendOf groups) canvas) ++
    groups.zipIdx.flatMap fun (g, index) => if plottedPoints g kernel = [] then [] else
      kernelMarks g (frameOf groups layout canvas index g) canvas kernel
  distinct : ∀ a b : Kernel, a ≠ b → a.style.color ≠ b.style.color ∧ a.style.marker ≠ b.style.marker

variable {groups layout}

theorem shows_drawing (hpanels : layout.panels = groups.length) (hroom : groups.length ≤ layout.rows * layout.cols) :
    Shows groups layout canvas (drawing groups layout (legendOf groups) canvas) := by
  constructor
  case marks_eq => exact drawing_eq canvas hpanels hroom
  case room => exact hroom
  case apart =>
    intro hheight i j hij
    exact Region.slot_apart (Int.natCast_nonneg _) hheight hij
  case panel => exact fun index g _ => panelShows_panelMarks canvas g (layout.cell index) _
  case legend => exact legendShows_legendMarks (nodup_legendOf groups) _ canvas
  case listed => exact fun kernel => mem_legendOf
  case colored =>
    intro kernel
    have hpaper : ∀ corner opposite,
        inColor kernel.style.color [.rect corner opposite Color.white.solid true] = [] := by
      intro corner opposite
      cases kernel <;> rfl
    rw [drawing_eq canvas hpanels hroom, inColor_append, inColor_append, hpaper, List.nil_append, inColor_flatMap]
    congr 1
    refine List.flatMap_congr ?_
    intro entry _
    exact inColor_panelMarks entry.1 _ canvas _ kernel
  case distinct =>
    intro a b hne
    exact ⟨fun heq => hne (color_inj heq), fun heq => hne (marker_inj heq)⟩

end

/-- **What a grid figure draws**, for all charts and every surface. -/
theorem figure_shows {groups : List (ChartGroup Float)} (h : groups ≠ []) :
    ∃ layout, GridLayout.ofCount? groups.length = some layout ∧ layout.cols = 2 ∧
      ∀ canvas, ∃ marks, (GridPlot.figure groups layout).draw canvas = .ok marks ∧
        Shows groups layout canvas marks := by
  obtain ⟨layout, hlayout, hpanels, hcols, hroom⟩ := GridLayout.room (mt List.length_eq_zero_iff.1 h)
  exact ⟨layout, hlayout, hcols, fun canvas => ⟨_, rfl, shows_drawing canvas hpanels hroom⟩⟩

/-- one matrix measured at two widths, with a zero at the second one -/
def oneMatrix : List (ChartGroup Float) :=
  [{ k := 32, sources := ["a.mtx"], nnz := [150000.0], series := .restrict [.bsmr, .roDe] fun _ => [some 2.5] },
    { k := 64, sources := ["a.mtx"], nnz := [150000.0], series := .restrict [.bsmr] fun _ => [some 0.0] }]

theorem figure_shows_oneMatrix : oneMatrix ≠ [] ∧
    ∃ layout, GridLayout.ofCount? oneMatrix.length = some layout ∧ layout.cols = 2 ∧
      ∀ canvas, ∃ marks, (GridPlot.figure oneMatrix layout).draw canvas = .ok marks ∧
        Shows oneMatrix layout canvas marks :=
  ⟨List.cons_ne_nil _ _, figure_shows (List.cons_ne_nil _ _)⟩

end Grid

end KernelCharts
