/-!
# The grid of panels

* `GridLayout` — rows and columns for a number of panels, two panels in a row;
* `GridLayout.cell` — the place of a panel and the axis titles it carries;
* `GridLayout.unused` — the slots without a panel.
-/

namespace KernelCharts

/-- rows and columns of a grid with a number of panels -/
structure GridLayout where
  rows : Nat
  cols : Nat
  panels : Nat
deriving DecidableEq, Repr

structure GridCell where
  index : Nat
  row : Nat
  col : Nat
  /-- the panel carries the title of the horizontal axis: it stands in the last row -/
  titledBelow : Bool
  /-- the panel carries the title of the vertical axis: it stands in the first column -/
  titledLeft : Bool
deriving DecidableEq, Repr

namespace GridLayout

def columns : Nat := 2

/-- the grid for a number of panels; none for no panel -/
def ofCount? (count : Nat) : Option GridLayout :=
  if count = 0 then none else some ⟨(count + columns - 1) / columns, columns, count⟩

/-- the place of panel number `index`, counted along the rows -/
def cell (layout : GridLayout) (index : Nat) : GridCell :=
  let row := index / layout.cols
  let col := index % layout.cols
  ⟨index, row, col, row + 1 == layout.rows, col == 0⟩

def cells (layout : GridLayout) : List GridCell :=
  (List.range layout.panels).map layout.cell

/-- the slots of the grid without a panel -/
def unused (layout : GridLayout) : List Nat :=
  List.range' layout.panels (layout.rows * layout.cols - layout.panels)

end GridLayout

end KernelCharts
