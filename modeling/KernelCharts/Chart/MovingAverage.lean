import KernelCharts.Number.Scalar

/-!
# Moving averages

* `windows` — the runs of `w` neighbouring values;
* `movingAverage` — the mean of each of them, missing where one of its values is missing.
-/

namespace KernelCharts

/-- the runs of `w` neighbouring elements, from the first on; there is none of no elements -/
def windows {β : Type} (w : Nat) (values : List β) : List (List β) :=
  if w = 0 then []
  else (List.range (values.length + 1 - w)).map fun i => (values.drop i).take w

@[simp] theorem length_windows {β : Type} {w : Nat} (hw : w ≠ 0) (values : List β) :
    (windows w values).length = values.length + 1 - w := by
  simp [windows, hw]

section Scalar

variable {α : Type} [Scalar α]

/-- the sum from left to right, missing when a value is missing -/
def measuredSum (values : List (Option α)) : Option α :=
  values.foldl (fun sum value => do return (← sum) + (← value)) (some Scalar.emptySum)

/-- the mean of each run of `w` neighbouring values, missing when one of them is missing -/
def movingAverage (w : Nat) (values : List (Option α)) : List (Option α) :=
  (windows w values).map fun run => (measuredSum run).map (· / Scalar.ofNat w)

end Scalar

end KernelCharts
