import KernelCharts.Number.Scalar
import Mathlib.Data.Int.Log
import Mathlib.Data.Rat.Floor
import Mathlib.Tactic.Linarith
import Mathlib.Tactic.NormNum.OfScientific

/-!
# Exact arithmetic

An ordered field in which every number can be rounded is a scalar of its own, without rounding errors.  Statements
about distances on an axis are about this scalar.

* `roundEven_bounds`, `roundEven_mono`, `roundEven_lt` — rounding to whole numbers;
* `Scalar.exact` — the operations of an ordered field;
* `Scalar.exactWith`, `Scalar.unbounded` — the same with whole parts of any kind, and with whole parts of any size;
* `Scalar.decade_exact_le`, `Scalar.lt_decade_exact` — the power of ten below a number;
* `Scalar.toInt32_exact`, `Scalar.toInt64_exact`, `Scalar.round_exact`, `Scalar.wholeText_exact` — what becomes of
  whole numbers.
-/

namespace KernelCharts

/-- the whole number nearest to a number that is not negative, a half going to the even neighbour -/
def roundEven {K : Type} [Field K] [LinearOrder K] [FloorSemiring K] (x : K) : ℕ :=
  let below := x - ⌊x⌋₊
  let above := ⌊x⌋₊ + 1 - x
  if below < above ∨ (below = above ∧ ⌊x⌋₊ % 2 = 0) then ⌊x⌋₊ else ⌊x⌋₊ + 1

section RoundEven

variable {K : Type} [Field K] [LinearOrder K] [IsStrictOrderedRing K] [FloorSemiring K]

/-- Rounding moves a number by a half at most. -/
theorem roundEven_bounds {x : K} (hx : 0 ≤ x) : (roundEven x : K) ≤ x + 1 / 2 ∧ x ≤ roundEven x + 1 / 2 := by
  have hfloor := Nat.floor_le hx
  have hnext := Nat.lt_floor_add_one x
  simp only [roundEven]
  split
  case isTrue hdown =>
    have hbelow : x - ⌊x⌋₊ ≤ ⌊x⌋₊ + 1 - x := by
      rcases hdown with hlt | ⟨heq, -⟩
      · exact hlt.le
      · exact heq.le
    constructor <;> linarith
  case isFalse hup =>
    have habove : ⌊x⌋₊ + 1 - x ≤ x - ⌊x⌋₊ := not_lt.1 fun hlt => hup (.inl hlt)
    rw [Nat.cast_add_one]
    constructor <;> linarith

theorem roundEven_mono {x y : K} (hx : 0 ≤ x) (h : x ≤ y) : roundEven x ≤ roundEven y := by
  by_contra hgt
  have hle : (roundEven y : K) + 1 ≤ roundEven x := by exact_mod_cast not_le.1 hgt
  have hlow := (roundEven_bounds hx).1
  have hhigh := (roundEven_bounds (hx.trans h)).2
  -- both numbers are rounded by a half, so they are the same
  have heq : x = y := by linarith
  exact hgt (heq ▸ le_rfl)

/-- Numbers that are more than one apart are rounded to different ones. -/
theorem roundEven_lt {x y : K} (hx : 0 ≤ x) (h : x + 1 < y) : roundEven x < roundEven y := by
  have hlow := (roundEven_bounds hx).1
  have hhigh := (roundEven_bounds (x := y) (by linarith)).2
  have hlt : (roundEven x : K) < roundEven y := by linarith
  exact_mod_cast hlt

@[simp] theorem roundEven_natCast (n : ℕ) : roundEven (n : K) = n := by simp [roundEven]

end RoundEven

/-- The number can be held within 64 bits. -/
def FitsInt64 (i : ℤ) : Prop := -9223372036854775808 ≤ i ∧ i ≤ 9223372036854775807

instance (i : ℤ) : Decidable (FitsInt64 i) := inferInstanceAs (Decidable (_ ∧ _))

/-- The number can be held within 32 bits. -/
def FitsInt32 (i : ℤ) : Prop := -2147483648 ≤ i ∧ i ≤ 2147483647

instance (i : ℤ) : Decidable (FitsInt32 i) := inferInstanceAs (Decidable (_ ∧ _))

namespace Scalar

variable (K : Type) [Field K] [LinearOrder K] [IsStrictOrderedRing K] [FloorRing K]

/-- exact arithmetic; the logarithm of a number rounded down gives the power of ten below it -/
@[reducible] def exact : Scalar K where
  beq x y := decide (x = y)
  decidableLE := inferInstance
  decidableLT := inferInstance
  ofInt := Int.cast
  emptySum := 0
  isFinite _ := true
  isWhole x := decide (x = ⌊x⌋)
  floor x := ⌊x⌋
  ceil x := ⌈x⌉
  round x := if 0 ≤ x then ⌊x + 0.5⌋ else -⌊-x + 0.5⌋
  max x y := x ⊔ y
  decade x := ((10 : ℕ) : K) ^ Int.log 10 x
  truncate lo hi x := lo ⊔ (hi ⊓ if 0 ≤ x then ⌊x⌋ else ⌈x⌉)
  wholeText x := (if x < 0 then "-" else "") ++ toString (roundEven |x|)

/-- exact arithmetic, with a way of its own to get at the whole part of a number -/
@[reducible] def exactWith (cut : ℤ → ℤ → K → ℤ) : Scalar K := { exact K with truncate := cut }

/-- exact arithmetic in which the whole part of a number may have any size -/
@[reducible] def unbounded : Scalar K := exactWith K fun _ _ x => if 0 ≤ x then ⌊x⌋ else ⌈x⌉

variable {K}

theorem decade_exact_le {x : K} (h : 0 < x) : (exact K).decade x ≤ x :=
  Int.zpow_log_le_self (by norm_num) h

theorem lt_decade_exact (x : K) : x < 10 * (exact K).decade x := by
  have h := Int.lt_zpow_succ_log_self (b := 10) (by norm_num) x
  rw [zpow_add_one₀ (by norm_num)] at h
  rw [mul_comm]
  exact_mod_cast h

theorem toInt64_exact {i : ℤ} (h : FitsInt64 i) : @toInt64 K (exact K) i = i := by
  have hwhole : (if 0 ≤ (i : K) then ⌊(i : K)⌋ else ⌈(i : K)⌉) = i := by simp
  show -9223372036854775808 ⊔ (9223372036854775807 ⊓ if 0 ≤ (i : K) then ⌊(i : K)⌋ else ⌈(i : K)⌉) = i
  rw [hwhole, min_eq_right h.2, max_eq_right h.1]

theorem toInt32_exact (i : ℤ) : @toInt32 K (exact K) i = -2147483648 ⊔ (2147483647 ⊓ i) := by
  have hwhole : (if 0 ≤ (i : K) then ⌊(i : K)⌋ else ⌈(i : K)⌉) = i := by simp
  show -2147483648 ⊔ (2147483647 ⊓ if 0 ≤ (i : K) then ⌊(i : K)⌋ else ⌈(i : K)⌉) = _
  rw [hwhole]

theorem toInt32_of_fits {i : ℤ} (h : FitsInt32 i) : @toInt32 K (exact K) i = i := by
  rw [toInt32_exact, min_eq_right h.2, max_eq_right h.1]

theorem toInt32_mono {i j : ℤ} (h : i ≤ j) : @toInt32 K (exact K) i ≤ @toInt32 K (exact K) j := by
  rw [toInt32_exact, toInt32_exact]
  exact max_le_max_left _ (min_le_min_left _ h)

theorem toInt64_unbounded (i : ℤ) : @toInt64 K (unbounded K) i = i := by
  show (if 0 ≤ (i : K) then ⌊(i : K)⌋ else ⌈(i : K)⌉) = i
  simp

omit [IsStrictOrderedRing K] in
theorem toInt64_nonneg {x : K} (h : 0 ≤ x) : 0 ≤ @toInt64 K (exact K) x := by
  show 0 ≤ -9223372036854775808 ⊔ (9223372036854775807 ⊓ if 0 ≤ x then ⌊x⌋ else ⌈x⌉)
  rw [if_pos h]
  exact le_max_of_le_right (le_min (by norm_num) (Int.floor_nonneg.2 h))

theorem round_exact (i : ℤ) : (exact K).round i = i := by
  have hup : ∀ i : ℤ, ⌊(i : K) + 0.5⌋ = i := by
    intro i
    rw [Int.floor_intCast_add]
    norm_num
  show (if 0 ≤ (i : K) then (⌊(i : K) + 0.5⌋ : K) else -(⌊-(i : K) + 0.5⌋ : K)) = i
  split
  · rw [hup]
  · rw [← Int.cast_neg i, hup, Int.cast_neg, neg_neg]

theorem wholeText_of_nonneg {x : K} (hx : 0 ≤ x) : (exact K).wholeText x = toString (roundEven x) := by
  show (if x < 0 then "-" else "") ++ toString (roundEven |x|) = toString (roundEven x)
  rw [if_neg hx.not_gt, abs_of_nonneg hx, String.empty_append]

theorem wholeText_exact (n : ℕ) : (exact K).wholeText n = toString n := by
  rw [wholeText_of_nonneg (Nat.cast_nonneg n), roundEven_natCast]

/-- Numbers have one text exactly if they are rounded to one number. -/
theorem wholeText_inj {x y : K} (hx : 0 ≤ x) (hy : 0 ≤ y) :
    (exact K).wholeText x = (exact K).wholeText y ↔ roundEven x = roundEven y := by
  rw [wholeText_of_nonneg hx, wholeText_of_nonneg hy]
  refine ⟨fun h => ?_, congrArg toString⟩
  -- the digits of a numeral give the number back
  have hdigits : Nat.toDigits 10 (roundEven x) = Nat.toDigits 10 (roundEven y) := by
    rw [← Nat.toList_repr, ← Nat.toList_repr]
    exact congrArg String.toList h
  rw [← Nat.ofDigitChars_ten_toDigits (n := roundEven x), hdigits, Nat.ofDigitChars_ten_toDigits]

end Scalar

end KernelCharts
