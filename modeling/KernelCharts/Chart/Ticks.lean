import KernelCharts.Number.Scalar

/-!
# Tick positions

* `niceSteps` — the multiples of a power of ten that make a good distance between ticks;
* `tickStep` — the distance chosen for a span and a greatest number of intervals;
* `niceTicks` — the multiples of that distance within the span.
-/

namespace KernelCharts

variable {α : Type} [Scalar α]

/-- the multiples of a power of ten that make a good distance between ticks -/
def niceSteps : List α := [1.0, 2.0, 2.5, 5.0, 10.0]

/-- the least good distance that is not below `raw`, up to a rounding error of `raw`. With `whole`
set, only whole distances count, and none is below one. -/
def tickStep (raw : α) (whole : Bool) : α :=
  let scale := Scalar.decade raw
  let candidates := (niceSteps.map (· * scale)).filter fun step => !whole || Scalar.isWhole step
  let step := (candidates.find? fun step => raw * (1.0 - 1e-9) ≤ step).getD (10.0 * scale)
  if whole then Scalar.round (Scalar.max step 1.0) else step

/-- the multiples of a step from number `first` to number `last`, both included -/
def multiples (step : α) (first last : Int) : List α :=
  (List.range (last + 1 - first).toNat).map fun (i : Nat) => Scalar.ofInt (first + i) * step

/-- the tick positions between `lo` and `hi`, with at most `maxBins` intervals between them. An empty
span has one tick, and a span that is reversed or not finite has none. -/
def niceTicks (lo hi : α) (maxBins : Nat) (whole : Bool) : List α :=
  if !Scalar.isFinite lo || !Scalar.isFinite hi || decide (hi < lo) then []
  else if hi == lo || maxBins == 0 then [lo]
  else
    let step := tickStep ((hi - lo) / Scalar.ofNat maxBins) whole
    let first := Scalar.toInt64 (Scalar.ceil (lo / step))
    let last := Scalar.toInt64 (Scalar.floor (hi / step + 1e-9))
    multiples step first last

end KernelCharts
