import KernelCharts.Proofs.Grid.Drawing
import KernelCharts.Proofs.Number.Approximate
import Mathlib.Data.List.Nodup
import Mathlib.Data.List.Perm.Subperm

/-!
# The places of the legend

The entries of a legend stand in rows above the panels.  Where a row begins follows from the widths of its entries,
where it lies from the height of a row, and how much room there is from the height of the band; the last two are
rounded to pixels apart from each other.

* `Canvas.pt_le`, `Canvas.lt_inch` — lengths in pixels;
* `placedFrom`, `RowPlaced`, `rowPlaced_placedFrom` — the entries of a row;
* `placedRows`, `LegendPlaced`, `legendPlaced_legendPlaces` — the rows of a legend;
* `rowHeight_lt_legendBand` — the rows lie in the band;
* `legend_fits` — the places of every legend, on every surface and for all widths of the names.
-/

set_option linter.unusedSectionVars false

namespace KernelCharts

/-! ## Legends -/

namespace Legend

theorem nodup_register {legend : Legend} (h : legend.entries.Nodup) (kernel : Kernel) :
    (legend.register kernel).entries.Nodup := by
  unfold register
  split
  · exact h
  · next hnew => exact List.concat_eq_append ▸ h.concat hnew

/-- A legend has each kernel once. -/
theorem nodup_foldl_register (kernels : List Kernel) : (kernels.foldl register ∅).entries.Nodup := by
  have hnodup : ∀ legend : Legend, legend.entries.Nodup → (kernels.foldl register legend).entries.Nodup := by
    induction kernels with
    | nil => exact fun _ h => h
    | cons kernel kernels ih => exact fun legend h => ih _ (nodup_register h kernel)
  exact hnodup ∅ List.nodup_nil

theorem length_entries_le {legend : Legend} (h : legend.entries.Nodup) : legend.entries.length ≤ 9 :=
  (h.subperm fun kernel _ => Kernel.mem_all kernel).length_le

end Legend

/-! ## Lengths in pixels -/

section

variable {K : Type} [Field K] [LinearOrder K] [IsStrictOrderedRing K] [FloorRing K] {α : Type} [Scalar α]
  {value : α → K} (h : Scalar.Approximates value) {canvas : Canvas} (hlow : 72 ≤ canvas.dpi)
  (hhigh : canvas.dpi < 4294967296) {n : ℕ}

include h

theorem near_pointsPerInch : Near 1 (value 72.0) (72 : K) := by
  have hliteral := h.literal 720 1 (by norm_num) (by norm_num) (by norm_num)
  norm_num at hliteral
  exact hliteral

include hlow hhigh

theorem Canvas.dpi_bounds : Near 1 (value (Scalar.ofNat canvas.dpi)) (canvas.dpi : K) ∧ (72 : K) ≤ canvas.dpi ∧
    (canvas.dpi : K) < 4294967296 :=
  ⟨h.ofNat canvas.dpi (by omega) hhigh, by exact_mod_cast hlow, by exact_mod_cast hhigh⟩

/-- A length in points, in pixels. -/
theorem Canvas.pt_le {points : α} {p : K} (hpoints : Near n (value points) p) (hn : n ≤ 4) (hleast : 2 ≤ p)
    (hgreatest : p ≤ 64) : (canvas.pt points : K) ≤ 101 / 100 * (p * canvas.dpi / 72) + 1 / 2 := by
  obtain ⟨hdpi, hdpiLeast, hdpiGreatest⟩ := Canvas.dpi_bounds h hlow hhigh
  have hone : Near 1 (value 1.0) (1 : K) := by simpa using h.literal 10 1 (by norm_num) (by norm_num) (by norm_num)
  have hlower : 2 * 72 ≤ p * canvas.dpi := mul_le_mul hleast hdpiLeast (by norm_num) (by linarith)
  have hupper : p * canvas.dpi ≤ 64 * canvas.dpi := mul_le_mul_of_nonneg_right hgreatest (by linarith)
  have hproduct : Moderate (p * canvas.dpi) := ⟨by linarith, by linarith⟩
  have hquotient : Moderate (p * canvas.dpi / 72) := ⟨by linarith, by linarith⟩
  have hnear := h.near_div (h.near_mul hpoints hdpi (by omega) (by norm_num) ⟨by linarith, by linarith⟩
    ⟨by linarith, by linarith⟩) (near_pointsPerInch h) (by omega) (by norm_num) hproduct (by constructor <;> norm_num)
  obtain ⟨hbelow, habove⟩ := hnear.bounds (by omega) hquotient.pos
  have hpixels := h.toNat32_max_round hone (.of_near hnear (by omega) hquotient) (by linarith) (by linarith)
  rw [Canvas.pt]
  linarith [hpixels.1]

/-- A length in inches, in pixels. -/
theorem Canvas.lt_inch {length : α} {l : K} (hlength : Near n (value length) l) (hn : n ≤ 4) (hleast : 1 / 10 ≤ l)
    (hgreatest : l ≤ 9 / 10) : l * canvas.dpi < 101 / 100 * (canvas.inch length + 1 / 2 : K) := by
  obtain ⟨hdpi, hdpiLeast, hdpiGreatest⟩ := Canvas.dpi_bounds h hlow hhigh
  have hlower : 1 / 10 * 72 ≤ l * canvas.dpi := mul_le_mul hleast hdpiLeast (by norm_num) (by linarith)
  have hupper : l * canvas.dpi ≤ 9 / 10 * canvas.dpi := mul_le_mul_of_nonneg_right hgreatest (by linarith)
  have hproduct : Moderate (l * canvas.dpi) := ⟨by linarith, by linarith⟩
  have hnear := h.near_mul hlength hdpi (by omega) (by norm_num) ⟨by linarith, by linarith⟩ ⟨by linarith, by linarith⟩
  obtain ⟨hbelow, habove⟩ := hnear.bounds (by omega) hproduct.pos
  have hpixels := h.toNat32_round (.of_near hnear (by omega) hproduct) (by linarith) (by linarith)
  rw [Canvas.inch]
  linarith [hpixels.2]

end

namespace Grid

/-! ## Rows -/

/-- the width of entries that follow each other with a spacing -/
def rowWidth (spacing : ℤ) (widths : List ℤ) : ℤ :=
  widths.foldr (· + ·) 0 + spacing * ((widths.length : ℤ) - 1)

theorem rowWidth_singleton (spacing width : ℤ) : rowWidth spacing [width] = width := by simp [rowWidth]

theorem rowWidth_cons_cons (spacing width next : ℤ) (widths : List ℤ) :
    rowWidth spacing (width :: next :: widths) = width + spacing + rowWidth spacing (next :: widths) := by
  simp only [rowWidth, List.foldr_cons, List.length_cons, Nat.cast_add, Nat.cast_one]
  ring

section

variable (spacing : ℤ) (width : Kernel → ℤ)

/-- the places of entries that follow each other from `x` on, with the centre line `y` -/
def placedFrom (x y : ℤ) (entries : List Kernel) : List (Kernel × Pixel) :=
  (entries.zip (leftEdges spacing x (entries.map width))).map fun (kernel, x) => (kernel, ⟨x, y⟩)

theorem placedFrom_cons (x y : ℤ) (kernel : Kernel) (entries : List Kernel) :
    placedFrom spacing width x y (kernel :: entries) =
      (kernel, ⟨x, y⟩) :: placedFrom spacing width (x + width kernel + spacing) y entries := rfl

theorem length_placedFrom (x y : ℤ) (entries : List Kernel) :
    (placedFrom spacing width x y entries).length = entries.length := by
  simp [placedFrom, length_leftEdges]

variable {spacing width} {x y : ℤ} {entries : List Kernel}

theorem y_of_mem_placedFrom {place : Kernel × Pixel} (h : place ∈ placedFrom spacing width x y entries) :
    place.2.y = y := by
  obtain ⟨_, -, rfl⟩ := List.mem_map.1 h
  rfl

/-- The second entry starts after the first one, with the spacing in between. -/
def Follows (spacing : ℤ) (width : Kernel → ℤ) (a b : Kernel × Pixel) : Prop :=
  b.2.x = a.2.x + width a.1 + spacing

theorem isChain_placedFrom : (placedFrom spacing width x y entries).IsChain (Follows spacing width) := by
  induction entries generalizing x with
  | nil => exact .nil
  | cons kernel entries ih =>
    cases entries with
    | nil => exact .singleton _
    | cons next entries => exact .cons_cons rfl ih

theorem head?_placedFrom {first : Kernel × Pixel} (h : first ∈ (placedFrom spacing width x y entries).head?) :
    first.2.x = x := by
  cases entries with
  | nil => cases h
  | cons kernel entries =>
    cases h
    rfl

/-- The last entry ends where the width of the row ends. -/
theorem getLast?_placedFrom {last : Kernel × Pixel} (h : last ∈ (placedFrom spacing width x y entries).getLast?) :
    last.2.x + width last.1 = x + rowWidth spacing (entries.map width) := by
  induction entries generalizing x with
  | nil => cases h
  | cons kernel entries ih =>
    cases entries with
    | nil =>
      obtain rfl : (kernel, ⟨x, y⟩) = last := Option.some.inj h
      rw [List.map_singleton, rowWidth_singleton]
    | cons next entries =>
      rw [placedFrom_cons, placedFrom_cons, List.getLast?_cons_cons, ← placedFrom_cons] at h
      have hwidth := rowWidth_cons_cons spacing (width kernel) (width next) (entries.map width)
      rw [ih h]
      simp only [List.map_cons, hwidth]
      ring

/-- One row of a legend in an area of some width: a few entries on one line, each a spacing after the one before, and
in the middle of the area if they fit. -/
structure RowPlaced (area spacing : ℤ) (width : Kernel → ℤ) (row : List (Kernel × Pixel)) : Prop where
  ne_nil : row ≠ []
  length_le : row.length ≤ legendColumns
  level : ∀ a ∈ row, ∀ b ∈ row, a.2.y = b.2.y
  follows : row.IsChain (Follows spacing width)
  apart : row.Pairwise fun a b => a.2.x + width a.1 + spacing ≤ b.2.x
  /-- the margins of a row that fits -/
  centred : ∀ first ∈ row.head?, ∀ last ∈ row.getLast?, last.2.x + width last.1 - first.2.x ≤ area →
    0 ≤ first.2.x ∧ last.2.x + width last.1 ≤ area ∧
      |first.2.x - (area - (last.2.x + width last.1))| ≤ 1
  /-- the beginning of a row that does not fit -/
  overlong : ∀ first ∈ row.head?, ∀ last ∈ row.getLast?, area < last.2.x + width last.1 - first.2.x → first.2.x = 0

theorem le_of_mem_placedFrom (hspacing : 0 ≤ spacing) (hwidth : ∀ kernel, 0 ≤ width kernel)
    {place : Kernel × Pixel} (h : place ∈ placedFrom spacing width x y entries) : x ≤ place.2.x := by
  induction entries generalizing x with
  | nil => cases h
  | cons kernel entries ih =>
    rw [placedFrom_cons] at h
    rcases List.mem_cons.1 h with rfl | hlater
    · exact le_rfl
    · have hle := ih hlater
      have hkernel := hwidth kernel
      omega

theorem pairwise_placedFrom (hspacing : 0 ≤ spacing) (hwidth : ∀ kernel, 0 ≤ width kernel) :
    (placedFrom spacing width x y entries).Pairwise fun a b => a.2.x + width a.1 + spacing ≤ b.2.x := by
  induction entries generalizing x with
  | nil => exact .nil
  | cons kernel entries ih => exact .cons (fun _ hlater => le_of_mem_placedFrom hspacing hwidth hlater) ih

/-- **The entries of a row**, placed from where a row of their width begins. -/
theorem rowPlaced_placedFrom (hspacing : 0 ≤ spacing) (hwidth : ∀ kernel, 0 ≤ width kernel) (area : ℤ)
    (hne : entries ≠ []) (hlength : entries.length ≤ legendColumns) :
    RowPlaced area spacing width (placedFrom spacing width
      ((max (area - rowWidth spacing (entries.map width)) 0).tdiv 2) y entries) := by
  constructor
  case ne_nil =>
    rw [← List.length_pos_iff, length_placedFrom]
    exact List.length_pos_iff.2 hne
  case length_le => rwa [length_placedFrom]
  case level =>
    intro a ha b hb
    rw [y_of_mem_placedFrom ha, y_of_mem_placedFrom hb]
  case follows => exact isChain_placedFrom
  case apart => exact pairwise_placedFrom hspacing hwidth
  case centred =>
    intro first hfirst last hlast hfits
    have hstart := head?_placedFrom hfirst
    have hend := getLast?_placedFrom hlast
    have hroom : 0 ≤ area - rowWidth spacing (entries.map width) := by omega
    rw [max_eq_left hroom, Int.tdiv_eq_ediv_of_nonneg hroom] at hstart hend
    exact ⟨by omega, by omega, abs_le.2 ⟨by omega, by omega⟩⟩
  case overlong =>
    intro first hfirst last hlast hlong
    have hstart := head?_placedFrom hfirst
    have hend := getLast?_placedFrom hlast
    have hroom : area - rowWidth spacing (entries.map width) ≤ 0 := by omega
    rwa [max_eq_right hroom] at hstart

end

/-! ## Pieces -/

theorem length_chunks {β : Type} (n : ℕ) (xs : List β) : (chunks n xs).length = (xs.length + n - 1) / n := by
  simp [chunks]

theorem ne_nil_of_mem_chunks {β : Type} {n : ℕ} {xs piece : List β} (h : piece ∈ chunks n xs) : piece ≠ [] := by
  obtain ⟨i, hi, rfl⟩ := List.mem_map.1 h
  have hend : (i + 1) * n ≤ xs.length + n - 1 :=
    (Nat.mul_le_mul_right n (List.mem_range.1 hi)).trans (Nat.div_mul_le_self _ n)
  have hn : 0 < n := by
    rcases Nat.eq_zero_or_pos n with rfl | hn
    · simp at hi
    · exact hn
  rw [Nat.succ_mul] at hend
  rw [← List.length_pos_iff, List.length_take, List.length_drop]
  omega

theorem length_le_of_mem_chunks {β : Type} {n : ℕ} {xs piece : List β} (h : piece ∈ chunks n xs) :
    piece.length ≤ n := by
  obtain ⟨i, -, rfl⟩ := List.mem_map.1 h
  exact List.length_take_le n _

theorem length_chunks_entries {legend : Legend} (hne : legend.entries ≠ []) :
    (chunks legendColumns legend.entries).length = legendRows legend := by
  have hpos := List.length_pos_iff.2 hne
  rw [length_chunks, legendRows, max_eq_left]
  exact (Nat.one_le_div_iff (by decide)).2 (by omega)

/-! ## Legends -/

def placedRows (area spacing rowHeight : ℤ) (width : Kernel → ℤ) (legend : Legend) : List (List (Kernel × Pixel)) :=
  (chunks legendColumns legend.entries).zipIdx.map fun (entries, row) =>
    placedFrom spacing width ((max (area - rowWidth spacing (entries.map width)) 0).tdiv 2)
      (row * rowHeight + rowHeight.tdiv 2) entries

theorem flatten_placedRows (area spacing rowHeight : ℤ) (width : Kernel → ℤ) (legend : Legend) :
    (placedRows area spacing rowHeight width legend).flatten = legendPlaces area spacing rowHeight width legend := rfl

theorem getElem_placedRows {area spacing rowHeight : ℤ} {width : Kernel → ℤ} {legend : Legend} {row : ℕ}
    (h : row < (placedRows area spacing rowHeight width legend).length) :
    ∃ entries ∈ chunks legendColumns legend.entries, (placedRows area spacing rowHeight width legend)[row] =
      placedFrom spacing width ((max (area - rowWidth spacing (entries.map width)) 0).tdiv 2)
        (row * rowHeight + rowHeight.tdiv 2) entries := by
  have hrow : row < (chunks legendColumns legend.entries).length := by simpa [placedRows] using h
  refine ⟨_, List.getElem_mem hrow, ?_⟩
  simp [placedRows]

/-- A legend lies in a band that is `area` wide and `height` high: each entry has one place, and the places make up rows
one below the other. -/
structure LegendPlaced (area height spacing rowHeight : ℤ) (width : Kernel → ℤ) (legend : Legend)
    (places : List (Kernel × Pixel)) : Prop where
  once : legend.entries.Nodup
  listed : places.map (·.1) = legend.entries
  rows : ∃ rows : List (List (Kernel × Pixel)), rows.flatten = places ∧
    (legend.entries ≠ [] → rows.length = legendRows legend) ∧ (∀ row ∈ rows, RowPlaced area spacing width row) ∧
    rows.Pairwise fun upper lower => ∀ a ∈ upper, ∀ b ∈ lower, a.2.y + rowHeight ≤ b.2.y
  /-- the centre lines of the rows -/
  inside : ∀ place ∈ places, 0 ≤ place.2.y ∧ place.2.y < height

/-- The centre lines of `rows` rows lie in a band that is higher than the rows without the lower half of the last one. -/
theorem centre_bounds {height rowHeight : ℤ} {rows i : ℕ} (hrow : 0 ≤ rowHeight)
    (hheight : (2 * rows - 1) * rowHeight < 2 * height) (hi : i < rows) :
    0 ≤ i * rowHeight + rowHeight.tdiv 2 ∧ i * rowHeight + rowHeight.tdiv 2 < height := by
  have hrows : ((i : ℤ) * 2 + 1) * rowHeight ≤ (2 * rows - 1) * rowHeight :=
    mul_le_mul_of_nonneg_right (by omega) hrow
  have hbefore : 0 ≤ (i : ℤ) * rowHeight := mul_nonneg (Int.natCast_nonneg i) hrow
  have hhalf := Int.ediv_mul_le rowHeight (by norm_num : (2 : ℤ) ≠ 0)
  rw [Int.tdiv_eq_ediv_of_nonneg hrow]
  constructor
  · omega
  · linarith

theorem legendPlaced_legendPlaces {area height spacing rowHeight : ℤ} {width : Kernel → ℤ} {legend : Legend}
    (hnodup : legend.entries.Nodup) (hspacing : 0 ≤ spacing) (hwidth : ∀ kernel, 0 ≤ width kernel)
    (hrow : 0 ≤ rowHeight) (hheight : (2 * legendRows legend - 1) * rowHeight < 2 * height) :
    LegendPlaced area height spacing rowHeight width legend (legendPlaces area spacing rowHeight width legend) := by
  constructor
  case once => exact hnodup
  case listed => exact map_fst_legendPlaces area spacing rowHeight width legend
  case rows =>
    refine ⟨placedRows area spacing rowHeight width legend, flatten_placedRows .., ?_, ?_, ?_⟩
    · intro hne
      rw [placedRows, List.length_map, List.length_zipIdx, length_chunks_entries hne]
    · intro row hrow
      obtain ⟨⟨entries, index⟩, hentries, rfl⟩ := List.mem_map.1 hrow
      have hpiece := List.fst_mem_of_mem_zipIdx hentries
      exact rowPlaced_placedFrom hspacing hwidth area (ne_nil_of_mem_chunks hpiece) (length_le_of_mem_chunks hpiece)
    · rw [List.pairwise_iff_getElem]
      intro i j hi hj hij a ha b hb
      obtain ⟨_, -, hupper⟩ := getElem_placedRows hi
      obtain ⟨_, -, hlower⟩ := getElem_placedRows hj
      rw [y_of_mem_placedFrom (hupper ▸ ha), y_of_mem_placedFrom (hlower ▸ hb)]
      have hrows : ((i : ℤ) + 1) * rowHeight ≤ j * rowHeight := mul_le_mul_of_nonneg_right (by omega) hrow
      linarith
  case inside =>
    intro place hplace
    rw [← flatten_placedRows, List.mem_flatten] at hplace
    obtain ⟨row, hmem, hplace⟩ := hplace
    obtain ⟨i, hi, rfl⟩ := List.mem_iff_getElem.1 hmem
    obtain ⟨entries, hentries, hplaced⟩ := getElem_placedRows hi
    have hne : legend.entries ≠ [] := by
      intro hnil
      rw [hnil] at hentries
      cases hentries
    have hlast : i < legendRows legend := by
      rwa [placedRows, List.length_map, List.length_zipIdx, length_chunks_entries hne] at hi
    rw [y_of_mem_placedFrom (hplaced ▸ hplace)]
    exact centre_bounds hrow hheight hlast

/-! ## The band -/

theorem legendRows_le_two {legend : Legend} (h : legend.entries.Nodup) : legendRows legend ≤ 2 := by
  have hlength := Legend.length_entries_le h
  rw [legendRows, legendColumns]
  omega

theorem one_le_legendRows (legend : Legend) : 1 ≤ legendRows legend := le_max_right _ _

section

variable {K : Type} [Field K] [LinearOrder K] [IsStrictOrderedRing K] [FloorRing K] {α : Type} [Scalar α]
  {value : α → K} (h : Scalar.Approximates value) {canvas : Canvas} (hlow : 72 ≤ canvas.dpi)
  (hhigh : canvas.dpi < 4294967296)

include h

theorem near_legendRowHeight : Near 1 (value legendRowHeight) (35 / 100) := by
  have hliteral := h.literal 35 2 (by norm_num) (by norm_num) (by norm_num)
  norm_num at hliteral ⊢
  exact hliteral

include hlow hhigh

theorem rowHeight_le :
    (canvas.pt (legendRowHeight * 72.0 : α) : K) ≤ 101 / 100 * (35 / 100 * canvas.dpi) + 1 / 2 := by
  have hpoints := h.near_mul (near_legendRowHeight h) (near_pointsPerInch h) (by norm_num) (by norm_num)
    (by constructor <;> norm_num) (by constructor <;> norm_num)
  have hle := Canvas.pt_le h hlow hhigh hpoints (by norm_num) (by norm_num) (by norm_num)
  linarith

theorem lt_legendBand {legend : Legend} (hrows : legendRows legend ≤ 2) :
    35 / 100 * (legendRows legend : K) * canvas.dpi < 101 / 100 * (legendBand α legend canvas + 1 / 2 : K) := by
  have hone : (1 : K) ≤ legendRows legend := by exact_mod_cast one_le_legendRows legend
  have htwo : (legendRows legend : K) ≤ 2 := by exact_mod_cast hrows
  have hnear := h.ofNat (legendRows legend) (one_le_legendRows legend) (by omega)
  have hheight := h.near_mul (near_legendRowHeight h) hnear (by norm_num) (by norm_num) (by constructor <;> norm_num)
    ⟨by linarith, by linarith⟩
  exact Canvas.lt_inch h hlow hhigh hheight (by norm_num) (by linarith) (by linarith)

/-- The height of a row is rounded in one place and the height of the band in another, and still the rows lie in the
band: half a row is left over. -/
theorem rowHeight_lt_legendBand {legend : Legend} (hnodup : legend.entries.Nodup) :
    (2 * legendRows legend - 1) * (canvas.pt (legendRowHeight * 72.0 : α) : ℤ) <
      2 * (legendBand α legend canvas : ℤ) := by
  have hone := one_le_legendRows legend
  have htwo := legendRows_le_two hnodup
  have hdpi : (72 : K) ≤ canvas.dpi := by exact_mod_cast hlow
  have hrow := rowHeight_le h hlow hhigh
  have hband := lt_legendBand h hlow hhigh htwo
  have hlt : (2 * legendRows legend - 1) * (canvas.pt (legendRowHeight * 72.0 : α) : K) <
      2 * (legendBand α legend canvas : K) := by
    obtain hrows | hrows : legendRows legend = 1 ∨ legendRows legend = 2 := by omega
    · rw [hrows] at hband ⊢
      push_cast at hband ⊢
      linarith
    · rw [hrows] at hband ⊢
      push_cast at hband ⊢
      linarith
  exact_mod_cast hlt

end

/-! ## Surfaces -/

section

variable (α : Type) [Scalar α] (canvas : Canvas)

/-- the width of an entry, for the widths of the names on a surface -/
def entryWidth (text : Kernel → ℕ) (kernel : Kernel) : ℤ :=
  let style := LegendStyle.ofCanvas α canvas alpha (canvas.pt (11.0 : α))
  style.swatch + style.gap + text kernel

theorem entryWidth_nonneg (text : Kernel → ℕ) (kernel : Kernel) : 0 ≤ entryWidth α canvas text kernel := by
  simp only [entryWidth, LegendStyle.ofCanvas]
  omega

/-- the places of a legend in an area, for the widths of the names on a surface -/
def placesOn (text : Kernel → ℕ) (area : ℤ) (legend : Legend) : List (Kernel × Pixel) :=
  legendPlaces area (canvas.pt (16.0 : α)) (canvas.pt (legendRowHeight * 72.0 : α)) (entryWidth α canvas text) legend

/-- A legend has room on a surface, however wide the names are on it, and is drawn where its places are. -/
structure LegendFits (legend : Legend) : Prop where
  placed : ∀ (text : Kernel → ℕ) (area : ℤ),
    LegendPlaced area (legendBand α legend canvas) (canvas.pt (16.0 : α)) (canvas.pt (legendRowHeight * 72.0 : α))
      (entryWidth α canvas text) legend (placesOn α canvas text area legend)
  drawn : ∀ area : Region, legendMarks α area legend canvas =
    (placesOn α canvas (fun kernel => textWidth (canvas.pt (11.0 : α)) kernel.name) (area.right - area.left)
      legend).flatMap fun (kernel, place) =>
        (LegendStyle.ofCanvas α canvas alpha (canvas.pt (11.0 : α))).marks kernel (area.left + place.x)
          (area.top + place.y)

end

/-- **The places of the legend**: for the kernels of any series, on every surface of 72 pixels or more to the inch, and
for all widths of the names. -/
theorem legend_fits {K : Type} [Field K] [LinearOrder K] [IsStrictOrderedRing K] [FloorRing K] {α : Type} [Scalar α]
    {value : α → K} (h : Scalar.Approximates value) {canvas : Canvas} (hlow : 72 ≤ canvas.dpi)
    (hhigh : canvas.dpi < 4294967296) (kernels : List Kernel) :
    LegendFits α canvas (kernels.foldl Legend.register ∅) where
  placed text _ :=
    have hnodup := Legend.nodup_foldl_register kernels
    legendPlaced_legendPlaces hnodup (Int.natCast_nonneg _) (entryWidth_nonneg α canvas text) (Int.natCast_nonneg _)
      (rowHeight_lt_legendBand h hlow hhigh hnodup)
  drawn _ := rfl

theorem legend_fits_catalogue :
    @Scalar.Approximates ℚ _ _ _ ℚ (.exact ℚ) id ∧ 72 ≤ 300 ∧ 300 < 4294967296 ∧
      @LegendFits ℚ (.exact ℚ) ⟨300⟩ (Kernel.all.foldl Legend.register ∅) :=
  ⟨Scalar.approximates_exact, by decide, by decide,
    @legend_fits ℚ _ _ _ _ ℚ (.exact ℚ) id Scalar.approximates_exact ⟨300⟩ (by decide) (by decide) Kernel.all⟩

end Grid

end KernelCharts
