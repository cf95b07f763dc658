import KernelCharts.Kernel.Basic

/-!
# Values by kernel

`KernelMap β` holds at most one value for each kernel. Its view is `get?`; two maps with the same
view are equal (`KernelMap.ext`).

* `KernelMap.ofFn`, `KernelMap.insert`, `KernelMap.restrict`, `KernelMap.mapValues` — operations,
  each with its effect on the view;
* `KernelMap.keys`, `KernelMap.entries` — the kernels with a value, in catalogue order.
-/

namespace KernelCharts

/-- at most one value for each kernel, kept in one slot per kernel -/
structure KernelMap (β : Type) where
  slots : Vector (Option β) 9
deriving DecidableEq, BEq, Repr

namespace KernelMap

variable {β γ : Type}

def get? (m : KernelMap β) (kernel : Kernel) : Option β := m.slots[kernel.rank]

/-- the map with a given view -/
def ofFn (f : Kernel → Option β) : KernelMap β :=
  ⟨#v[f .zcx, f .bsmr, f .flashSparse, f .roDe, f .aspt, f .cuSddmm, f .cuSparse, f .tcgnn,
    f .sputnik]⟩

@[simp] theorem get?_ofFn (f : Kernel → Option β) (kernel : Kernel) :
    (ofFn f).get? kernel = f kernel := by
  cases kernel <;> rfl

/-- maps with the same values are equal -/
theorem ext {m n : KernelMap β} (h : ∀ kernel, m.get? kernel = n.get? kernel) : m = n := by
  obtain ⟨m⟩ := m
  obtain ⟨n⟩ := n
  congr 1
  ext1 i hi
  have : ∃ kernel : Kernel, kernel.rank = ⟨i, hi⟩ := by
    match i, hi with
    | 0, _ => exact ⟨.zcx, rfl⟩
    | 1, _ => exact ⟨.bsmr, rfl⟩
    | 2, _ => exact ⟨.flashSparse, rfl⟩
    | 3, _ => exact ⟨.roDe, rfl⟩
    | 4, _ => exact ⟨.aspt, rfl⟩
    | 5, _ => exact ⟨.cuSddmm, rfl⟩
    | 6, _ => exact ⟨.cuSparse, rfl⟩
    | 7, _ => exact ⟨.tcgnn, rfl⟩
    | 8, _ => exact ⟨.sputnik, rfl⟩
  obtain ⟨kernel, hk⟩ := this
  have := h kernel
  simpa [get?, hk] using this

def empty : KernelMap β := ofFn fun _ => none

instance : EmptyCollection (KernelMap β) := ⟨empty⟩
instance : Inhabited (KernelMap β) := ⟨empty⟩

@[simp] theorem get?_empty (kernel : Kernel) : (∅ : KernelMap β).get? kernel = none :=
  get?_ofFn _ kernel

/-- the map with the value of one kernel set, whatever it was -/
def insert (m : KernelMap β) (kernel : Kernel) (value : β) : KernelMap β :=
  ofFn fun other => if other = kernel then some value else m.get? other

@[simp] theorem get?_insert (m : KernelMap β) (kernel other : Kernel) (value : β) :
    (m.insert kernel value).get? other = if other = kernel then some value else m.get? other :=
  get?_ofFn _ other

/-- the map that has, for each kernel of a list, the value of a function -/
def restrict (kernels : List Kernel) (f : Kernel → β) : KernelMap β :=
  ofFn fun kernel => if kernel ∈ kernels then some (f kernel) else none

@[simp] theorem get?_restrict (kernels : List Kernel) (f : Kernel → β) (kernel : Kernel) :
    (restrict kernels f).get? kernel = if kernel ∈ kernels then some (f kernel) else none :=
  get?_ofFn _ kernel

def mapValues (f : β → γ) (m : KernelMap β) : KernelMap γ :=
  ofFn fun kernel => (m.get? kernel).map f

@[simp] theorem get?_mapValues (f : β → γ) (m : KernelMap β) (kernel : Kernel) :
    (m.mapValues f).get? kernel = (m.get? kernel).map f :=
  get?_ofFn _ kernel

/-- the map of a list of pairs, a later pair of a kernel replacing an earlier one -/
def ofList (pairs : List (Kernel × β)) : KernelMap β :=
  pairs.foldl (fun m pair => m.insert pair.1 pair.2) ∅

/-- the kernels with a value, in catalogue order -/
def keys (m : KernelMap β) : List Kernel := Kernel.all.filter fun kernel => (m.get? kernel).isSome

@[simp] theorem mem_keys {m : KernelMap β} {kernel : Kernel} :
    kernel ∈ m.keys ↔ (m.get? kernel).isSome := by
  simp [keys]

/-- the values with their kernels, in catalogue order -/
def entries (m : KernelMap β) : List (Kernel × β) :=
  Kernel.all.filterMap fun kernel => (m.get? kernel).map fun value => (kernel, value)

end KernelMap

end KernelCharts
