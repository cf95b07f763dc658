import KernelCharts.Document.Value
import KernelCharts.Number.Numeral
import KernelCharts.Session.Figure

/-!
# Settings and reports of plots

* `Settings` — what all plots of a run share;
* `PlotReport` — what a plot wrote and what it left out;
* `Selection.ofValue?`, `Settings.ofValue?` — reading from documents.
-/

namespace KernelCharts

/-- what all plots of a run share -/
structure Settings where
  /-- the resolution of raster images that is asked for -/
  dpi : Nat
deriving DecidableEq, Repr

namespace Settings

def minDpi : Nat := 300

/-- the settings without a wish -/
def default : Settings := ⟨minDpi⟩

instance : Inhabited Settings := ⟨default⟩

/-- the settings for a resolution that may be asked for -/
def ofDpi (dpi : Option Nat) : Settings := ⟨max (dpi.getD minDpi) minDpi⟩

def rasterDpi (settings : Settings) : Nat := max settings.dpi minDpi

def ofValue? (value : Value) : Option Settings := do
  match ← value.fields? ["dpi"] with
  | [none] => return default
  | [some dpi] => return ⟨← dpi.nat? Number.limit32⟩
  | _ => none

end Settings

/-- what a plot wrote and what it left out -/
structure PlotReport where
  figures : List String
  skipped : List SkippedGroup
deriving DecidableEq, Repr

def Value.kernel? (value : Value) : Option Kernel := do Kernel.ofName? (← value.text?).toList

/-- a value that may be missing, or what stands for a missing one -/
def Value.getD? {β : Type} (value : Option Value) (missing : β) (read : Value → Option β) :
    Option β :=
  match value with
  | none => some missing
  | some value => read value

/-- the selection of a document; only the reference is needed -/
def Selection.ofValue? (value : Value) : Option Selection := do
  match ← value.fields? ["reference", "nnz_range", "window"] with
  | [reference, nnzRange, window] =>
    return {
      reference := ← (← reference).kernel?
      nnzRange := ← Value.getD? nnzRange none (·.optional? (·.range? Number.limit64))
      window := ← Value.getD? window none (·.optional? (·.nat? Number.limit64)) }
  | _ => none

end KernelCharts
