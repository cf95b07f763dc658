import KernelCharts.Number.Scalar

/-!
# Axes

* `TickedAxis` — a linear axis with its ticks; those outside its range are dropped;
* `TickedAxis.pixel` — the pixel of a value between two limits;
* `heightPixel` — the pixel of a value on the vertical axis, which starts at zero;
* `headroom` — the upper end of the vertical axis for some values.
-/

namespace KernelCharts

/-- a linear axis whose ticks stand exactly where they are asked for -/
structure TickedAxis (α : Type) where
  start : α
  stop : α
  ticks : List α
deriving DecidableEq, BEq, Repr

variable {α : Type} [Scalar α]

namespace TickedAxis

/-- the axis from `start` to `stop` with the ticks that lie on it -/
def ofTicks (start stop : α) (ticks : List α) : TickedAxis α :=
  ⟨start, stop, ticks.filter fun tick => start ≤ tick ∧ tick ≤ stop⟩

/-- the pixel of a value, linear between the pixels of the two ends. The value of a pixel's left edge
may be short of it by a rounding error, so a thousandth of a pixel is added before cutting off. An
axis without extent maps everything to its first pixel. -/
def pixel (axis : TickedAxis α) (value : α) (first last : Int) : Int :=
  let span := axis.stop - axis.start
  if span ≤ 0.0 then first
  else
    let ratio := (value - axis.start) / span
    first + Scalar.toInt32 (Scalar.floor (Scalar.ofInt (last - first) * ratio + 1e-3))

end TickedAxis

/-- the pixel of a height between zero and `top`, drawn upwards from pixel `bottom` to pixel
`first` -/
def heightPixel (top value : α) (bottom first : Int) : Int :=
  bottom + Scalar.toInt32 (Scalar.ceil (Scalar.ofInt (first - bottom) * (value / top) - 1e-3))

/-- the greatest of some values and zero -/
def greatest (values : List α) : α := values.foldl Scalar.max 0.0

/-- the upper end of the vertical axis for some values: a twentieth more than the greatest -/
def headroom (values : List α) : α :=
  let most := greatest values
  if (0.0 : α) < most then most * 1.05 else 1.0

end KernelCharts
