import KernelCharts.Number.Rounding

/-!
# The numbers of a chart

Charts compute with one kind of number: `Scalar` lists what they ask of it. Doubles are the instance
that runs. Nothing is assumed about the operations here; statements about charts name what they need
of them.

* `Scalar` — the operations;
* `Scalar.ofNat`, `Scalar.toInt32`, `Scalar.toInt64`, `Scalar.toNat32` — conversions.
-/

namespace KernelCharts

/-- what a chart asks of its numbers -/
class Scalar (α : Type) extends
    Add α, Sub α, Mul α, Div α, Neg α, LE α, LT α, BEq α, OfScientific α where
  /-- comparison can be decided -/
  decidableLE : DecidableLE α
  /-- strict comparison can be decided -/
  decidableLT : DecidableLT α
  /-- the number nearest to a whole one -/
  ofInt : Int → α
  /-- the sum of no numbers -/
  emptySum : α
  /-- neither infinite nor undefined -/
  isFinite : α → Bool
  /-- a finite whole number -/
  isWhole : α → Bool
  /-- the next whole number below -/
  floor : α → α
  /-- the next whole number above -/
  ceil : α → α
  /-- the nearest whole number, a half away from zero -/
  round : α → α
  /-- the larger of two numbers, the defined one if the other is undefined -/
  max : α → α → α
  /-- the largest power of ten that does not exceed a positive number -/
  decade : α → α
  /-- the whole part, held within bounds around zero; zero for an undefined number -/
  truncate : Int → Int → α → Int
  /-- the number written without decimals, a half rounded to the even neighbour -/
  wholeText : α → String

instance Scalar.instDecidableLE {α : Type} [s : Scalar α] : DecidableLE α := s.decidableLE

instance Scalar.instDecidableLT {α : Type} [s : Scalar α] : DecidableLT α := s.decidableLT

namespace Scalar

variable {α : Type} [Scalar α]

/-- the number nearest to a natural one -/
def ofNat (n : Nat) : α := ofInt n

/-- the whole part, held within 32 bits -/
def toInt32 (x : α) : Int := truncate (-2147483648) 2147483647 x

/-- the whole part, held within 64 bits -/
def toInt64 (x : α) : Int := truncate (-9223372036854775808) 9223372036854775807 x

/-- the whole part of a number of pixels, held within 32 bits -/
def toNat32 (x : α) : Nat := (truncate 0 4294967295 x).toNat

end Scalar

/-! ## Doubles -/

/-- doubles; the sum of none is `-0.0`, which no addition disturbs -/
instance : Scalar Float where
  decidableLE := inferInstance
  decidableLT := inferInstance
  ofInt := Float.ofInt
  emptySum := -0.0
  isFinite := Float.isFinite
  isWhole x := x.isFinite && x.floor == x
  floor := Float.floor
  ceil := Float.ceil
  round := Float.round
  max x y := if x.isNaN then y else if y.isNaN then x else if x < y then y else x
  decade x := Float.pow 10.0 x.log10.floor
  truncate lo hi x := Max.max lo (Min.min hi x.toInt64.toInt)
  wholeText := Number.wholeText

end KernelCharts
