import KernelCharts.Chart.Drawing
import KernelCharts.Chart.Layout
import Mathlib.Data.List.Basic

/-!
# The places of the panels

A region is cut into pieces along its rows.

* `Region.slot` — the piece in a row and a column;
* `Region.splitEvenly_eq` — the pieces, counted along the rows;
* `Region.cut_mono`, `Region.slot_apart` — pieces do not overlap;
* `GridLayout.room` — a grid has a piece for every panel.
-/

namespace KernelCharts

namespace Region

/-- the piece of a region in one row and one column -/
def slot (r : Region) (rows cols row col : Nat) : Region :=
  { left := cut r.left r.right cols col
    top := cut r.top r.bottom rows row
    right := cut r.left r.right cols (col + 1)
    bottom := cut r.top r.bottom rows (row + 1) }

theorem flatMap_range_map {β : Type} (f : Nat → Nat → β) (rows cols : Nat) :
    ((List.range rows).flatMap fun row => (List.range cols).map (f row)) =
      (List.range (rows * cols)).map fun i => f (i / cols) (i % cols) := by
  induction rows with
  | zero => simp
  | succ rows ih =>
    rw [List.range_succ, List.flatMap_append, ih, Nat.succ_mul, List.range_add, List.map_append,
      List.flatMap_singleton, List.map_map]
    congr 1
    refine List.map_congr_left ?_
    intro i hi
    have hi := List.mem_range.1 hi
    rw [Function.comp_apply, Nat.mul_comm rows, Nat.mul_add_div (by omega), Nat.div_eq_of_lt hi, Nat.add_zero,
      Nat.mul_add_mod, Nat.mod_eq_of_lt hi]

/-- **The pieces are counted along the rows.** -/
theorem splitEvenly_eq (r : Region) (rows cols : Nat) : r.splitEvenly rows cols =
    (List.range (rows * cols)).map fun i => r.slot rows cols (i / cols) (i % cols) :=
  flatMap_range_map (r.slot rows cols) rows cols

theorem getElem?_splitEvenly (r : Region) {rows cols i : Nat} (h : i < rows * cols) :
    (r.splitEvenly rows cols)[i]? = some (r.slot rows cols (i / cols) (i % cols)) := by
  rw [splitEvenly_eq, List.getElem?_map, List.getElem?_range h, Option.map_some]

theorem cut_mono {a b : Int} (h : a ≤ b) (n : Nat) {i j : Nat} (hij : i ≤ j) : cut a b n i ≤ cut a b n j := by
  have hpiece : 0 ≤ (b - a).tdiv n := Int.tdiv_nonneg (by omega) (Int.natCast_nonneg n)
  have hcast : (i : Int) ≤ j := by exact_mod_cast hij
  have hmul := Int.mul_le_mul_of_nonneg_right hcast hpiece
  unfold cut
  omega

/-- **Pieces do not overlap**: the earlier one ends above the later one, or to the left of it. -/
theorem slot_apart {r : Region} (hwidth : r.left ≤ r.right) (hheight : r.top ≤ r.bottom) {rows cols i j : Nat}
    (hij : i < j) :
    (r.slot rows cols (i / cols) (i % cols)).bottom ≤ (r.slot rows cols (j / cols) (j % cols)).top ∨
      (r.slot rows cols (i / cols) (i % cols)).right ≤ (r.slot rows cols (j / cols) (j % cols)).left := by
  rcases Nat.lt_or_eq_of_le (Nat.div_le_div_right (c := cols) (Nat.le_of_lt hij)) with hrow | hrow
  · exact .inl (cut_mono hheight rows hrow)
  · right
    refine cut_mono hwidth cols ?_
    have hi := Nat.div_add_mod i cols
    have hj := Nat.div_add_mod j cols
    rw [hrow] at hi
    omega

end Region

namespace GridLayout

/-- A grid has two columns, and a piece for every panel. -/
theorem room {count : Nat} (h : count ≠ 0) : ∃ layout, ofCount? count = some layout ∧
    layout.panels = count ∧ layout.cols = 2 ∧ count ≤ layout.rows * layout.cols := by
  refine ⟨_, if_neg h, rfl, rfl, ?_⟩
  show count ≤ (count + 2 - 1) / 2 * 2
  omega

end GridLayout

end KernelCharts
