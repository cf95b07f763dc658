import KernelCharts.Proofs.Grid.Order
import KernelCharts.Proofs.Plot.Figures

/-!
# The name of a grid

The file name of a grid ends in the widths of its inputs.  It tells which widths these are and nothing
else.

* `GridPlot.widths`, `GridPlot.suffix_eq_iff` — grids with the same widths, and no others, have the same
  name;
* `GridPlot.Named` — how a grid is named, and `GridPlot.named_suffix`.
-/

namespace KernelCharts.GridPlot

def widths (plot : GridPlot) : Set Nat := {k | ∃ input ∈ plot.inputs, input.k = k}

theorem mem_widths {plot : GridPlot} {k : Nat} : k ∈ plot.widths ↔ ∃ input ∈ plot.inputs, input.k = k :=
  Iff.rfl

theorem mem_ascending_widths {plot : GridPlot} {k : Nat} :
    k ∈ ascending (plot.inputs.map (·.k)) ↔ k ∈ plot.widths := by
  rw [mem_ascending, List.mem_map, mem_widths]

theorem toList_suffix (plot : GridPlot) :
    plot.suffix.toList = widthLabels (ascending (plot.inputs.map (·.k))) := by
  have hstem := toList_stem_grid (ascending (plot.inputs.map (·.k)))
  have hsuffix : Depicted.stem (.grid (ascending (plot.inputs.map (·.k)))) = "sddmm_" ++ plot.suffix := rfl
  rw [hsuffix, String.toList_append] at hstem
  exact List.append_cancel_left hstem

/-- **The name of a grid tells which widths it has.** -/
theorem suffix_eq_iff {plot other : GridPlot} : plot.suffix = other.suffix ↔ plot.widths = other.widths := by
  constructor
  · intro h
    have hlabels := congrArg String.toList h
    rw [toList_suffix, toList_suffix] at hlabels
    ext k
    rw [← mem_ascending_widths, ← mem_ascending_widths, widthLabels_inj hlabels]
  · intro h
    have hmem : ∀ k, k ∈ plot.inputs.map (·.k) ↔ k ∈ other.inputs.map (·.k) := by
      intro k
      rw [← mem_ascending, mem_ascending_widths, h, ← mem_ascending_widths, mem_ascending]
    unfold suffix
    rw [ascending_congr hmem]

/-- How a grid is named. -/
structure Named (plot : GridPlot) : Prop where
  /-- the widths are listed in ascending order, each once -/
  listed : ∃ ks : List Nat, ks.Pairwise (· < ·) ∧ (∀ k, k ∈ ks ↔ k ∈ plot.widths) ∧
    plot.suffix = "_".intercalate (ks.map fun k => "k" ++ k.repr)
  /-- grids have the same name if they have the same widths, and not otherwise -/
  same_iff : ∀ other : GridPlot, plot.suffix = other.suffix ↔ plot.widths = other.widths
  /-- the order of the inputs does not matter -/
  reordered : ∀ inputs, inputs.Perm plot.inputs → ({ plot with inputs } : GridPlot).suffix = plot.suffix
  /-- inputs that are repeated do not matter -/
  repeated : ∀ inputs ⊆ plot.inputs,
    ({ plot with inputs := plot.inputs ++ inputs } : GridPlot).suffix = plot.suffix
  /-- nor do the paths of the tables -/
  moved : ∀ path : GridInput → String,
    ({ plot with inputs := plot.inputs.map fun input => { input with path := path input } } : GridPlot).suffix =
      plot.suffix

/-- **A grid is named after its widths**, in ascending order and each once. -/
theorem named_suffix (plot : GridPlot) : Named plot := by
  constructor
  case listed =>
    exact ⟨ascending (plot.inputs.map (·.k)), pairwise_ascending _, fun k => mem_ascending_widths, rfl⟩
  case same_iff => exact fun other => suffix_eq_iff
  case reordered => exact fun inputs hperm => suffix_perm hperm
  case repeated =>
    intro inputs hsubset
    rw [suffix_eq_iff]
    ext k
    simp only [mem_widths, List.mem_append]
    constructor
    · rintro ⟨input, hinput, hk⟩
      exact ⟨input, hinput.elim id fun h => hsubset h, hk⟩
    · rintro ⟨input, hinput, hk⟩
      exact ⟨input, .inl hinput, hk⟩
  case moved =>
    intro path
    rw [suffix_eq_iff]
    ext k
    simp [mem_widths]

end KernelCharts.GridPlot
