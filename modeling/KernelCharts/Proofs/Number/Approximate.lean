import KernelCharts.Proofs.Number.Exact

/-!
# Rounded arithmetic

What a statement about sizes needs of the numbers of a chart is not that they compute without errors, but that the
errors are small.  A thousandth is far more than doubles are ever off, and still little enough for pixels.

* `Near` — two numbers are a few thousandths apart at most, with `Near.mul` and `Near.div`;
* `Scalar.Approximates` — the numbers of a chart stand for numbers of an ordered field;
* `Scalar.Approximates.near_mul`, `Scalar.Approximates.near_div` — the errors of products and quotients;
* `Scalar.approximates_exact` — exact arithmetic has no errors.
-/

namespace KernelCharts

variable {K : Type} [Field K] [LinearOrder K] [IsStrictOrderedRing K]

/-! ## Small errors -/

/-- Each of the numbers exceeds the other by less than a thousandth, `n` times over. -/
def Near (n : ℕ) (x y : K) : Prop := x ≤ (1025 / 1024) ^ n * y ∧ y ≤ (1025 / 1024) ^ n * x

theorem Near.refl {x : K} (n : ℕ) (hx : 0 ≤ x) : Near n x x := by
  have hone : (1 : K) ≤ (1025 / 1024) ^ n := one_le_pow₀ (by norm_num)
  exact ⟨le_mul_of_one_le_left hx hone, le_mul_of_one_le_left hx hone⟩

theorem Near.trans {m n : ℕ} {x y z : K} (h : Near m x y) (h' : Near n y z) : Near (m + n) x z := by
  have hm : (0 : K) ≤ (1025 / 1024) ^ m := by positivity
  have hn : (0 : K) ≤ (1025 / 1024) ^ n := by positivity
  constructor
  · calc x ≤ (1025 / 1024) ^ m * y := h.1
      _ ≤ (1025 / 1024) ^ m * ((1025 / 1024) ^ n * z) := mul_le_mul_of_nonneg_left h'.1 hm
      _ = (1025 / 1024) ^ (m + n) * z := by ring
  · calc z ≤ (1025 / 1024) ^ n * y := h'.2
      _ ≤ (1025 / 1024) ^ n * ((1025 / 1024) ^ m * x) := mul_le_mul_of_nonneg_left h.2 hn
      _ = (1025 / 1024) ^ (m + n) * x := by ring

theorem Near.pos {n : ℕ} {x y : K} (h : Near n x y) (hy : 0 < y) : 0 < x := by
  by_contra hx
  have hnonpos : (1025 / 1024) ^ n * x ≤ 0 := mul_nonpos_of_nonneg_of_nonpos (by positivity) (not_lt.1 hx)
  exact absurd (h.2.trans hnonpos) (not_le.2 hy)

theorem Near.mul {m n : ℕ} {x y a b : K} (hx : Near m x a) (hy : Near n y b) (ha : 0 < a) (hb : 0 < b) :
    Near (m + n) (x * y) (a * b) := by
  have hx0 := hx.pos ha
  have hy0 := hy.pos hb
  constructor
  · calc x * y ≤ ((1025 / 1024) ^ m * a) * ((1025 / 1024) ^ n * b) :=
        mul_le_mul hx.1 hy.1 hy0.le (by positivity)
      _ = (1025 / 1024) ^ (m + n) * (a * b) := by ring
  · calc a * b ≤ ((1025 / 1024) ^ m * x) * ((1025 / 1024) ^ n * y) :=
        mul_le_mul hx.2 hy.2 hb.le (by positivity)
      _ = (1025 / 1024) ^ (m + n) * (x * y) := by ring

theorem Near.inv {n : ℕ} {x a : K} (h : Near n x a) (ha : 0 < a) : Near n x⁻¹ a⁻¹ := by
  have hx := h.pos ha
  constructor
  · rw [← div_eq_mul_inv, inv_eq_one_div, div_le_div_iff₀ hx ha, one_mul]
    exact h.2
  · rw [← div_eq_mul_inv, inv_eq_one_div, div_le_div_iff₀ ha hx, one_mul]
    exact h.1

theorem Near.div {m n : ℕ} {x y a b : K} (hx : Near m x a) (hy : Near n y b) (ha : 0 < a) (hb : 0 < b) :
    Near (m + n) (x / y) (a / b) := by
  rw [div_eq_mul_inv, div_eq_mul_inv]
  exact hx.mul (hy.inv hb) ha (inv_pos.2 hb)

/-- Up to eight errors make up less than a hundredth. -/
theorem Near.bounds {n : ℕ} {x a : K} (h : Near n x a) (hn : n ≤ 8) (ha : 0 < a) :
    x ≤ 101 / 100 * a ∧ a ≤ 101 / 100 * x := by
  have hfactor : (1025 / 1024 : K) ^ n ≤ 101 / 100 := calc
    (1025 / 1024 : K) ^ n ≤ (1025 / 1024) ^ 8 := pow_le_pow_right₀ (by norm_num) hn
    _ ≤ 101 / 100 := by norm_num
  exact ⟨h.1.trans (mul_le_mul_of_nonneg_right hfactor ha.le),
    h.2.trans (mul_le_mul_of_nonneg_right hfactor (h.pos ha).le)⟩

/-- The number is far from the limits of doubles. -/
def Moderate (x : K) : Prop := 1 / 1024 ≤ x ∧ x ≤ 1000000000000

theorem Moderate.pos {x : K} (h : Moderate x) : 0 < x := lt_of_lt_of_le (by norm_num) h.1

namespace Scalar

variable [FloorRing K] {α : Type} [Scalar α]

/-- The number is near enough to a moderate one to be computed with. -/
def Usable (x : K) : Prop := 1 / 1000000 ≤ x ∧ x ≤ 1000000000000000

/-- **The numbers of a chart stand for numbers of an ordered field.**  Literals, conversions, products and quotients
are off by a thousandth at most, as long as the numbers are neither tiny nor huge; rounding to whole numbers, taking
the larger of two numbers, and counting pixels are exact.  Doubles are like this, with infinite and undefined ones
standing for zero. -/
structure Approximates (value : α → K) : Prop where
  literal : ∀ m e : ℕ, 0 < m → m < 4294967296 → e < 10 →
    Near 1 (value (OfScientific.ofScientific m true e)) (m / 10 ^ e)
  ofNat : ∀ n : ℕ, 0 < n → n < 4294967296 → Near 1 (value (ofNat n)) n
  mul : ∀ x y, Usable (value x) → Usable (value y) → Near 1 (value (x * y)) (value x * value y)
  div : ∀ x y, Usable (value x) → Usable (value y) → Near 1 (value (x / y)) (value x / value y)
  round : ∀ x, Usable (value x) → value (round x) = ⌊value x + 1 / 2⌋
  max : ∀ x y, Usable (value x) → Usable (value y) → value (max x y) = value x ⊔ value y
  toNat32 : ∀ x, ∀ n : ℕ, 0 < n → n < 4294967296 → value x = n → toNat32 x = n

theorem Usable.of_near {n : ℕ} {x a : K} (h : Near n x a) (hn : n ≤ 8) (ha : Moderate a) : Usable x := by
  obtain ⟨hupper, hlower⟩ := h.bounds hn ha.pos
  obtain ⟨hleast, hgreatest⟩ := ha
  constructor <;> linarith

namespace Approximates

variable {value : α → K} (h : Approximates value) {m n : ℕ} {x y : α} {a b : K}

include h

theorem near_mul (hx : Near m (value x) a) (hy : Near n (value y) b) (hm : m ≤ 8) (hn : n ≤ 8) (ha : Moderate a)
    (hb : Moderate b) : Near (1 + (m + n)) (value (x * y)) (a * b) :=
  (h.mul x y (.of_near hx hm ha) (.of_near hy hn hb)).trans (hx.mul hy ha.pos hb.pos)

theorem near_div (hx : Near m (value x) a) (hy : Near n (value y) b) (hm : m ≤ 8) (hn : n ≤ 8) (ha : Moderate a)
    (hb : Moderate b) : Near (1 + (m + n)) (value (x / y)) (a / b) :=
  (h.div x y (.of_near hx hm ha) (.of_near hy hn hb)).trans (hx.div hy ha.pos hb.pos)

/-! ### Pixels -/

theorem exists_value_round (hx : Usable (value x)) (hleast : 1 / 2 ≤ value x) (hgreatest : value x < 4294967295) :
    ∃ pixels : ℕ, 0 < pixels ∧ pixels < 4294967296 ∧ value (Scalar.round x) = pixels ∧
      (pixels : K) ≤ value x + 1 / 2 ∧ value x < pixels + 1 / 2 := by
  have hpos : 0 < ⌊value x + 1 / 2⌋ := Int.floor_pos.2 (by linarith)
  have hlt : ⌊value x + 1 / 2⌋ < 4294967296 := Int.floor_lt.2 (by push_cast; linarith)
  have hle := Int.floor_le (value x + 1 / 2)
  have hnext := Int.lt_floor_add_one (value x + 1 / 2)
  have hround := h.round x hx
  obtain ⟨pixels, hpixels⟩ := Int.eq_ofNat_of_zero_le hpos.le
  rw [hpixels] at hpos hlt hle hnext hround
  rw [Int.cast_natCast] at hle hnext hround
  exact ⟨pixels, by omega, by omega, hround, hle, by linarith⟩

/-- A size is rounded to whole pixels. -/
theorem toNat32_round (hx : Usable (value x)) (hleast : 1 / 2 ≤ value x) (hgreatest : value x < 4294967295) :
    (Scalar.toNat32 (Scalar.round x) : K) ≤ value x + 1 / 2 ∧ value x < Scalar.toNat32 (Scalar.round x) + 1 / 2 := by
  obtain ⟨pixels, hpos, hlt, hround, hbounds⟩ := h.exists_value_round hx hleast hgreatest
  rw [h.toNat32 _ pixels hpos hlt hround]
  exact hbounds

/-- A lower bound of one pixel does not matter to a size that is rounded to two pixels or more. -/
theorem toNat32_max_round {one : α} (hone : Near 1 (value one) 1) (hx : Usable (value x)) (hleast : 3 / 2 < value x)
    (hgreatest : value x < 4294967295) :
    (Scalar.toNat32 (Scalar.max (Scalar.round x) one) : K) ≤ value x + 1 / 2 ∧
      value x < Scalar.toNat32 (Scalar.max (Scalar.round x) one) + 1 / 2 := by
  obtain ⟨pixels, hpos, hlt, hround, hbounds⟩ := h.exists_value_round hx (by linarith) hgreatest
  have hone' : (1 : K) < pixels := by linarith [hbounds.2]
  have hlower : (2 : K) ≤ pixels := by exact_mod_cast hone'
  have hupper : (pixels : K) < 4294967296 := by exact_mod_cast hlt
  have hpixels : Usable (value (Scalar.round x)) := by
    rw [hround]
    constructor <;> linarith
  have hmax : value (Scalar.max (Scalar.round x) one) = pixels := by
    rw [h.max _ _ hpixels (.of_near hone (by norm_num) (by constructor <;> norm_num)), hround, max_eq_left]
    have hle := hone.1
    linarith
  rw [h.toNat32 _ pixels hpos hlt hmax]
  exact hbounds

end Approximates

/-- **Exact arithmetic has no errors.** -/
theorem approximates_exact : @Approximates K _ _ _ K (exact K) id := by
  have hpos : ∀ x : K, Usable x → 0 < x := fun x hx => lt_of_lt_of_le (by norm_num) hx.1
  let _ := exact K
  constructor
  case literal =>
    intro m e _ _ _
    have hvalue : (OfScientific.ofScientific m true e : K) = m / 10 ^ e := by
      rw [NNRatCast.ofScientific_eq_ite, if_pos rfl, NNRat.cast_divNat]
      push_cast
      rfl
    show Near 1 (OfScientific.ofScientific m true e : K) _
    rw [hvalue]
    exact .refl 1 (by positivity)
  case ofNat =>
    intro n _ _
    have hvalue : @ofNat K (exact K) n = n := Int.cast_natCast n
    rw [hvalue]
    exact .refl 1 (Nat.cast_nonneg n)
  case mul => exact fun x y hx hy => .refl 1 (mul_pos (hpos x hx) (hpos y hy)).le
  case div => exact fun x y hx hy => .refl 1 (div_pos (hpos x hx) (hpos y hy)).le
  case round =>
    intro x hx
    have hhalf : (0.5 : K) = 1 / 2 := by norm_num
    show (if 0 ≤ x then (⌊x + 0.5⌋ : K) else _) = ⌊x + 1 / 2⌋
    rw [if_pos (hpos x hx).le, hhalf]
  case max => exact fun _ _ _ _ => rfl
  case toNat32 =>
    intro x n _ hn hx
    have hcut : @truncate K (exact K) 0 4294967295 x = n := by
      show 0 ⊔ (4294967295 ⊓ if 0 ≤ x then ⌊x⌋ else ⌈x⌉) = (n : ℤ)
      rw [show x = n from hx, if_pos (Nat.cast_nonneg n), Int.floor_natCast]
      omega
    rw [toNat32, hcut]
    exact Int.toNat_natCast n

end Scalar

end KernelCharts
