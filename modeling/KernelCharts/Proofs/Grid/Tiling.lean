import KernelCharts.Proofs.Grid.Drawing
import Mathlib.Algebra.Order.Floor.Div

/-!
# The panels tile the grid

A layout has two columns and just as many rows as its panels need.  Counted along the rows, the panels take up the
first slots, and one slot at most is left over.

* `GridLayout.filter_even_range` — the places at which a row begins;
* `GridLayout.Tiles`, `GridLayout.tiles_ofCount` — which slots the panels take up, and which titles they carry;
* `GridLayout.ofCountWithin?`, `GridLayout.cellWithin?`, `GridLayout.unusedWithin?` — the layout where every number
  has to be held within a machine word, and `GridLayout.Holds` — that no number is too large;
* `Grid.DrawsEach`, `Grid.drawsEach_drawing` — the figure has a panel for each group;
* `Grid.layout_tiles` — all of it, for every number of groups.
-/

namespace KernelCharts

namespace GridLayout

/-! ## Slots -/

/-- the row and the column of a slot, counted along the rows -/
def slotOf (layout : GridLayout) (index : ℕ) : ℕ × ℕ := (index / layout.cols, index % layout.cols)

/-- Every second number begins a row. -/
theorem filter_even_range (count : ℕ) :
    (List.range count).filter (· % 2 == 0) = (List.range ((count + 1) / 2)).map (2 * ·) := by
  induction count with
  | zero => rfl
  | succ count ih =>
    rw [List.range_succ, List.filter_append, ih]
    rcases Nat.mod_two_eq_zero_or_one count with heven | hodd
    · have hnext : (count + 1 + 1) / 2 = (count + 1) / 2 + 1 := by omega
      have hlast : 2 * ((count + 1) / 2) = count := by omega
      rw [hnext, List.range_succ, List.map_append, List.map_singleton, hlast,
        List.filter_cons_of_pos (by rw [heven]; rfl), List.filter_nil]
    · have hsame : (count + 1 + 1) / 2 = (count + 1) / 2 := by omega
      rw [hsame, List.filter_cons_of_neg (by rw [hodd]; decide), List.filter_nil, List.append_nil]

/-- The panels of a layout and the slots without a panel make up its grid. -/
structure Tiles (layout : GridLayout) (count : ℕ) : Prop where
  rows : layout.rows = count ⌈/⌉ 2
  cols : layout.cols = 2
  panels : layout.panels = count
  /-- the places of the panels, followed by the slots without a panel, are all slots in order -/
  indices : layout.cells.map (·.index) ++ layout.unused = List.range (layout.rows * layout.cols)
  slots : layout.cells.map (fun cell => (cell.row, cell.col)) ++ layout.unused.map layout.slotOf =
    List.range layout.rows ×ˢ List.range layout.cols
  place : ∀ cell ∈ layout.cells, cell.index = cell.row * layout.cols + cell.col ∧
    cell.row < layout.rows ∧ cell.col < layout.cols
  /-- one slot at most has no panel, the last one -/
  unused : layout.unused = [] ∨ layout.unused = [layout.rows * layout.cols - 1]
  /-- in each row, the panel of the first column carries the title of the vertical axis, and no other does -/
  titledLeft : (layout.cells.filter (·.titledLeft)).map (fun cell => (cell.row, cell.col)) =
    (List.range layout.rows).map fun row => (row, 0)
  titledBelow : ∀ cell ∈ layout.cells, cell.titledBelow = true ↔ cell.row + 1 = layout.rows
  lastRow : ∃ cell ∈ layout.cells, cell.row + 1 = layout.rows

/-- the layout of a number of panels -/
def ofCount (count : ℕ) : GridLayout := ⟨(count + 1) / 2, 2, count⟩

section

variable {count : ℕ}

theorem ofCount?_eq (h : 1 ≤ count) : ofCount? count = some (ofCount count) := if_neg (by omega)

theorem mem_cells_ofCount {cell : GridCell} :
    cell ∈ (ofCount count).cells ↔ ∃ i < count, (ofCount count).cell i = cell := by
  rw [cells, List.mem_map]
  simp only [List.mem_range]
  rfl

variable (count) in
theorem unused_cases : (ofCount count).unused = [] ∨
    (ofCount count).unused = [(ofCount count).rows * (ofCount count).cols - 1] := by
  show List.range' count ((count + 1) / 2 * 2 - count) = [] ∨
    List.range' count ((count + 1) / 2 * 2 - count) = [(count + 1) / 2 * 2 - 1]
  rcases Nat.mod_two_eq_zero_or_one count with heven | hodd
  · left
    rw [show (count + 1) / 2 * 2 - count = 0 by omega]
    rfl
  · right
    rw [show (count + 1) / 2 * 2 - count = 1 by omega, show (count + 1) / 2 * 2 - 1 = count by omega]
    rfl

variable (count) in
theorem indices_ofCount : (ofCount count).cells.map (·.index) ++ (ofCount count).unused =
    List.range ((ofCount count).rows * (ofCount count).cols) := by
  have hroom : count ≤ (count + 1) / 2 * 2 := by omega
  have hindex : (ofCount count).cells.map (·.index) = List.range count := by
    rw [cells, List.map_map]
    exact List.map_id _
  rw [hindex, List.range_eq_range', unused]
  show List.range' 0 count ++ List.range' count ((count + 1) / 2 * 2 - count) =
    List.range ((count + 1) / 2 * 2)
  rw [List.range_eq_range', show List.range' count ((count + 1) / 2 * 2 - count) =
    List.range' (0 + 1 * count) ((count + 1) / 2 * 2 - count) by rw [Nat.zero_add, Nat.one_mul],
    List.range'_append, Nat.add_sub_cancel' hroom]

theorem tiles_ofCount (h : 1 ≤ count) : Tiles (ofCount count) count := by
  constructor
  case rows => exact (Nat.ceilDiv_eq_add_pred_div count 2).symm
  case cols => rfl
  case panels => rfl
  case indices => exact indices_ofCount count
  case slots =>
    have hcells : (ofCount count).cells.map (fun cell => (cell.row, cell.col)) =
        ((ofCount count).cells.map (·.index)).map (ofCount count).slotOf := by
      rw [cells, List.map_map, List.map_map, List.map_map]
      rfl
    rw [hcells, ← List.map_append, indices_ofCount count]
    exact (Region.flatMap_range_map Prod.mk _ _).symm
  case place =>
    intro cell hcell
    obtain ⟨i, hi, rfl⟩ := mem_cells_ofCount.1 hcell
    show i = i / 2 * 2 + i % 2 ∧ i / 2 < (count + 1) / 2 ∧ i % 2 < 2
    omega
  case unused => exact unused_cases count
  case titledLeft =>
    have hfilter : (ofCount count).cells.filter (·.titledLeft) =
        ((List.range count).filter (· % 2 == 0)).map (ofCount count).cell := by
      rw [cells, List.filter_map]
      rfl
    rw [hfilter, filter_even_range, List.map_map, List.map_map]
    refine List.map_congr_left fun row _ => ?_
    show (2 * row / 2, 2 * row % 2) = (row, 0)
    rw [Nat.mul_div_cancel_left row (by decide), Nat.mul_mod_right]
  case titledBelow =>
    intro cell hcell
    obtain ⟨i, -, rfl⟩ := mem_cells_ofCount.1 hcell
    exact beq_iff_eq
  case lastRow =>
    refine ⟨(ofCount count).cell (count - 1), mem_cells_ofCount.2 ⟨count - 1, by omega, rfl⟩, ?_⟩
    show (count - 1) / 2 + 1 = (count + 1) / 2
    omega

end

/-! ## Machine words -/

/-- the number, if it can be held within so many bits -/
def word? (bits n : ℕ) : Option ℕ := if n < 2 ^ bits then some n else none

/-- the difference, if it is not below zero -/
def difference? (m n : ℕ) : Option ℕ := if n ≤ m then some (m - n) else none

/-- the quotient rounded up, by adding one to the quotient unless nothing remains -/
def quotientUp? (bits m n : ℕ) : Option ℕ :=
  if n = 0 then none else if m % n = 0 then some (m / n) else word? bits (m / n + 1)

/-- the grid for a number of panels, in machine words -/
def ofCountWithin? (bits count : ℕ) : Option (Option GridLayout) :=
  if count = 0 then some none
  else (quotientUp? bits count columns).map fun rows => some ⟨rows, columns, count⟩

/-- the place of a panel, in machine words -/
def cellWithin? (layout : GridLayout) (index : ℕ) : Option GridCell :=
  if layout.cols = 0 then none
  else (difference? layout.rows 1).map fun last =>
    let row := index / layout.cols
    let col := index % layout.cols
    ⟨index, row, col, row == last, col == 0⟩

/-- the slots without a panel, in machine words -/
def unusedWithin? (bits : ℕ) (layout : GridLayout) : Option (List ℕ) :=
  (word? bits (layout.rows * layout.cols)).map fun slots => List.range' layout.panels (slots - layout.panels)

/-- No number of the layout is too large for a machine word, or falls below zero on the way. -/
structure Holds (bits count : ℕ) (layout : GridLayout) : Prop where
  grid : ofCountWithin? bits count = some (some layout)
  cells : ∀ index < layout.panels, layout.cellWithin? index = some (layout.cell index)
  unused : layout.unusedWithin? bits = some layout.unused

/-- **Nothing overflows**, for no more panels than there may be elements in a list in memory. -/
theorem holds_ofCount {bits count : ℕ} (h : 1 ≤ count) (hbits : count < 2 ^ (bits - 1)) :
    Holds bits count (ofCount count) := by
  have hword : count + 1 < 2 ^ bits := by
    have hne : bits ≠ 0 := by
      rintro rfl
      simp at hbits
      omega
    obtain ⟨less, rfl⟩ := Nat.exists_eq_succ_of_ne_zero hne
    rw [Nat.succ_sub_one] at hbits
    rw [Nat.pow_succ]
    omega
  constructor
  case grid =>
    have hrows : quotientUp? bits count columns = some ((count + 1) / 2) := by
      show (if (2 : ℕ) = 0 then none else
        if count % 2 = 0 then some (count / 2) else word? bits (count / 2 + 1)) = some ((count + 1) / 2)
      rw [if_neg (by decide)]
      split
      · rw [Option.some_inj]
        omega
      · rw [word?, if_pos (by omega), Option.some_inj]
        omega
    rw [ofCountWithin?, if_neg (by omega), hrows]
    rfl
  case cells =>
    intro index _
    have hlast : difference? (ofCount count).rows 1 = some ((count + 1) / 2 - 1) :=
      if_pos (show 1 ≤ (count + 1) / 2 by omega)
    have hrow : (index / 2 == (count + 1) / 2 - 1) = (index / 2 + 1 == (count + 1) / 2) := by
      rw [Bool.eq_iff_iff, beq_iff_eq, beq_iff_eq]
      omega
    rw [cellWithin?, if_neg (show ¬ (ofCount count).cols = 0 from two_ne_zero), hlast, Option.map_some, Option.some_inj]
    show (⟨index, index / 2, index % 2, index / 2 == (count + 1) / 2 - 1, index % 2 == 0⟩ : GridCell) = _
    rw [hrow]
    rfl
  case unused =>
    have hslots : (ofCount count).rows * (ofCount count).cols < 2 ^ bits := by
      show (count + 1) / 2 * 2 < 2 ^ bits
      omega
    rw [unusedWithin?, word?, if_pos hslots]
    rfl

end GridLayout

namespace Grid

variable {α : Type} [Scalar α]

/-! ## Panels -/

/-- A figure has a panel for each of its groups, in order, and finds the group and the region of each panel. -/
structure DrawsEach (groups : List (ChartGroup α)) (layout : GridLayout) (canvas : Canvas) : Prop where
  within : ∀ cell ∈ layout.cells, ∃ g, groups[cell.index]? = some g ∧
    ((body groups layout canvas).splitEvenly layout.rows layout.cols)[cell.index]? =
      some ((body groups layout canvas).slot layout.rows layout.cols cell.row cell.col)
  once : layout.cells.map (fun cell => groups[cell.index]?) = groups.map some
  marks : drawing groups layout (legendOf groups) canvas =
    [.rect (surface groups layout canvas).corner
      ⟨(surface groups layout canvas).right, (surface groups layout canvas).bottom⟩ Color.white.solid true] ++
    legendMarks α (band groups layout canvas) (legendOf groups) canvas ++
    groups.zipIdx.flatMap fun (g, index) => panelMarks g (layout.cell index) canvas
      ((body groups layout canvas).slot layout.rows layout.cols (layout.cell index).row (layout.cell index).col)

theorem drawsEach_drawing (groups : List (ChartGroup α)) (canvas : Canvas) :
    DrawsEach groups (.ofCount groups.length) canvas := by
  have hroom : groups.length ≤ (groups.length + 1) / 2 * 2 := by omega
  constructor
  case within =>
    intro cell hcell
    obtain ⟨i, hi, rfl⟩ := GridLayout.mem_cells_ofCount.1 hcell
    exact ⟨groups[i], List.getElem?_eq_getElem hi, Region.getElem?_splitEvenly _ (hi.trans_le hroom)⟩
  case once =>
    rw [GridLayout.cells, List.map_map]
    refine List.ext_getElem? fun i => ?_
    rw [List.getElem?_map, List.getElem?_map]
    by_cases hi : i < groups.length
    · rw [List.getElem?_range (show i < (GridLayout.ofCount groups.length).panels from hi),
        List.getElem?_eq_getElem hi]
      exact congrArg some (List.getElem?_eq_getElem hi)
    · rw [List.getElem?_eq_none (by simpa [GridLayout.ofCount] using hi), List.getElem?_eq_none (not_lt.1 hi)]
      rfl
  case marks => exact drawing_eq canvas rfl hroom

/-- **The panels tile the grid**, and the figure has one for each group, for every number of groups that a list in
memory can have. -/
theorem layout_tiles {bits count : ℕ} (h : 1 ≤ count) (hbits : count < 2 ^ (bits - 1)) :
    ∃ layout, GridLayout.ofCount? count = some layout ∧ layout.Tiles count ∧ layout.Holds bits count ∧
      ∀ groups : List (ChartGroup α), groups.length = count → ∀ canvas, DrawsEach groups layout canvas := by
  refine ⟨_, GridLayout.ofCount?_eq h, GridLayout.tiles_ofCount h, GridLayout.holds_ofCount h hbits, ?_⟩
  rintro groups rfl canvas
  exact drawsEach_drawing groups canvas

theorem layout_tiles_three : 1 ≤ 3 ∧ 3 < 2 ^ (64 - 1) ∧
    ∃ layout, GridLayout.ofCount? 3 = some layout ∧ layout.Tiles 3 ∧ layout.Holds 64 3 ∧
      ∀ groups : List (ChartGroup Float), groups.length = 3 → ∀ canvas, DrawsEach groups layout canvas :=
  ⟨by decide, by decide, layout_tiles (by decide) (by decide)⟩

end Grid

end KernelCharts
