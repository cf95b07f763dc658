/-!
# Rounding and reading of binary numbers

* `roundHalfEven` — a quotient rounded to the nearest whole number, a half to the even one;
* `Binary` — the exact value of a finite double, `± m · 2 ^ e`;
* `wholeText` — a double written without decimals.
-/

namespace KernelCharts.Number

/-- the quotient `n / d` to the nearest whole number, a half to the even neighbour -/
def roundHalfEven (n d : Nat) : Nat :=
  let q := n / d
  let r := n % d
  if 2 * r < d ∨ (2 * r = d ∧ q % 2 = 0) then q else q + 1

/-- the exact value `± significand · 2 ^ exponent` of a finite double -/
structure Binary where
  negative : Bool
  significand : Nat
  exponent : Int
deriving DecidableEq, Repr

/-- the exact value of a finite double -/
def Binary.ofFloat (x : Float) : Binary :=
  let bits := x.toBits.toNat
  let field := (bits >>> 52) % 2048
  let fraction := bits % (1 <<< 52)
  { negative := bits >>> 63 = 1
    significand := if field = 0 then fraction else (1 <<< 52) + fraction
    exponent := ((if field = 0 then 1 else field : Nat) : Int) - 1075 }

/-- the magnitude of the value, rounded to a whole number -/
def Binary.rounded (b : Binary) : Nat :=
  if 0 ≤ b.exponent then b.significand <<< b.exponent.toNat
  else roundHalfEven b.significand (1 <<< (-b.exponent).toNat)

/-- a double without decimals: the exact value, rounded half to even, with the sign kept even when
nothing but zero is left -/
def wholeText (x : Float) : String :=
  if x.isNaN then "NaN"
  else
    let value := Binary.ofFloat x
    let sign := if value.negative then "-" else ""
    sign ++ if x.isFinite then toString value.rounded else "inf"

end KernelCharts.Number
