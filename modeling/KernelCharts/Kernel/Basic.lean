import KernelCharts.Text.Blank

/-!
# The benchmarked kernels

* `Kernel` — the closed set of kernels a report may mention;
* `Kernel.all` — the catalogue, in the order in which charts draw and list kernels;
* `Kernel.ofName?` — the kernel a column header or an option names.
-/

namespace KernelCharts

/-- a kernel whose throughput is reported, in catalogue order -/
inductive Kernel where
  | zcx
  | bsmr
  | flashSparse
  | roDe
  | aspt
  | cuSddmm
  | cuSparse
  | tcgnn
  | sputnik
deriving DecidableEq, Repr

namespace Kernel

/-! ## The catalogue -/

def all : List Kernel :=
  [zcx, bsmr, flashSparse, roDe, aspt, cuSddmm, cuSparse, tcgnn, sputnik]

/-- the catalogue leaves no kernel out -/
@[simp] theorem mem_all (kernel : Kernel) : kernel ∈ all := by cases kernel <;> decide

def rank : Kernel → Fin 9
  | zcx => 0
  | bsmr => 1
  | flashSparse => 2
  | roDe => 3
  | aspt => 4
  | cuSddmm => 5
  | cuSparse => 6
  | tcgnn => 7
  | sputnik => 8

theorem pairwise_all : all.Pairwise fun a b => a.rank < b.rank := by decide

/-- the kernels of a list, each once and in catalogue order -/
def catalogued (kernels : List Kernel) : List Kernel := all.filter (kernels.contains ·)

@[simp] theorem mem_catalogued {kernel : Kernel} {kernels : List Kernel} :
    kernel ∈ catalogued kernels ↔ kernel ∈ kernels := by
  simp [catalogued]

/-! ## Names -/

/-- the name shown in charts and summaries -/
def name : Kernel → String
  | zcx => "zcx"
  | bsmr => "BSMR"
  | flashSparse => "FlashSparse"
  | roDe => "RoDe"
  | aspt => "ASpT"
  | cuSddmm => "cuSDDMM"
  | cuSparse => "cuSPARSE"
  | tcgnn => "TCGNN"
  | sputnik => "Sputnik"

/-- the name in the descriptions of plots and columns -/
def symbol : Kernel → String
  | zcx => "Zcx"
  | bsmr => "Bsmr"
  | flashSparse => "FlashSparse"
  | roDe => "RoDe"
  | aspt => "Aspt"
  | cuSddmm => "CuSddmm"
  | cuSparse => "CuSparse"
  | tcgnn => "Tcgnn"
  | sputnik => "Sputnik"

/-- the unit that a column header may append to the name of its kernel -/
def unit : List Char := "_gflops".toList

/-- a lower-case name without one trailing unit -/
def withoutUnit (name : List Char) : List Char :=
  match Text.after? unit.reverse name.reverse with
  | some rest => rest.reverse
  | none => name

/-- the kernel that a text names: its name, in any case and with surrounding blanks, with or without
the unit -/
def ofName? (text : List Char) : Option Kernel :=
  let base := withoutUnit ((Text.trim text).map Char.toLower)
  all.find? fun kernel => Text.sameLetters kernel.name.toList base

end Kernel

/-- a name that no kernel has, as it was written -/
structure UnknownKernel where
  name : String
deriving DecidableEq, Repr

namespace UnknownKernel

def message (e : UnknownKernel) : String := "Unknown implementation: " ++ e.name

end UnknownKernel

/-- the kernel a name stands for, or the complaint about the name -/
def Kernel.ofString (name : String) : Except UnknownKernel Kernel :=
  match Kernel.ofName? name.toList with
  | some kernel => .ok kernel
  | none => .error ⟨name⟩

end KernelCharts
