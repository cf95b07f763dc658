import KernelCharts.Chart.Axis
import KernelCharts.Line.Figure
import KernelCharts.Proofs.Number.Exact

/-!
# Pixels of an axis

A value is mapped to a pixel by cutting off a fraction, with a thousandth of a pixel added before.  In exact arithmetic
this never shows: the ends of the axis have the pixels that they are given, in either direction, and all else lies in
between.

* `TickedAxis.share`, `TickedAxis.offset`, `TickedAxis.pixel_exact` — how far a value stands from the first pixel;
* `TickedAxis.offset_mono`, `TickedAxis.offset_anti`, `TickedAxis.offset_bounds` — where the values of an axis come to
  stand;
* `TickedAxis.offset_ne` — values that are one apart, with at least one pixel for each of them;
* `TickedAxis.pixel?`, `TickedAxis.pixel?_eq_some` — the same map where no whole number may leave 32 bits on the way;
* `FaithfulMap`, `pixel_faithful` — what the map does to the values of an axis, and to the categories of a line chart.
-/

set_option linter.unusedSectionVars false

namespace KernelCharts

variable {K : Type} [Field K] [LinearOrder K] [IsStrictOrderedRing K] [FloorRing K]

theorem floor_lt_floor_of_add_one_le {a b : K} (h : a + 1 ≤ b) : ⌊a⌋ < ⌊b⌋ := by
  have hle : ⌊a + 1⌋ ≤ ⌊b⌋ := Int.floor_le_floor h
  rw [Int.floor_add_one] at hle
  exact Int.lt_iff_add_one_le.2 hle

namespace TickedAxis

/-- where a value stands between the ends of an axis, from zero to one -/
def share (axis : TickedAxis K) (value : K) : K := (value - axis.start) / (axis.stop - axis.start)

/-- how many pixels a value stands from the first one -/
def offset (axis : TickedAxis K) (value : K) (first last : ℤ) : ℤ :=
  ⌊((last - first : ℤ) : K) * axis.share value + 1 / 1000⌋

section

variable {axis : TickedAxis K} (h : axis.start < axis.stop) {first last : ℤ} {x y : K}

include h

theorem pixel_exact (value : K) (first last : ℤ) : @pixel K (.exact K) axis value first last =
    first + @Scalar.toInt32 K (.exact K) (axis.offset value first last : ℤ) := by
  have hzero : (0.0 : K) = 0 := by norm_num
  have hbias : (1e-3 : K) = 1 / 1000 := by norm_num
  have hunfold : @pixel K (.exact K) axis value first last =
      if axis.stop - axis.start ≤ 0.0 then first
      else first + @Scalar.toInt32 K (.exact K)
        (⌊((last - first : ℤ) : K) * axis.share value + 1e-3⌋ : ℤ) := rfl
  rw [hunfold, hzero, if_neg (not_le.2 (sub_pos.2 h)), hbias]
  rfl

/-! ## Values in order -/

theorem share_mono (hxy : x ≤ y) : axis.share x ≤ axis.share y :=
  div_le_div_of_nonneg_right (sub_le_sub_right hxy _) (sub_pos.2 h).le

theorem offset_mono (hlimits : first ≤ last) (hxy : x ≤ y) :
    axis.offset x first last ≤ axis.offset y first last := by
  have hlength : (0 : K) ≤ ((last - first : ℤ) : K) := by exact_mod_cast sub_nonneg.2 hlimits
  have hscaled := mul_le_mul_of_nonneg_left (share_mono h hxy) hlength
  exact Int.floor_le_floor (by linarith)

/-- With reversed limits the values run the other way. -/
theorem offset_anti (hlimits : last ≤ first) (hxy : x ≤ y) :
    axis.offset y first last ≤ axis.offset x first last := by
  have hlength : ((last - first : ℤ) : K) ≤ 0 := by exact_mod_cast sub_nonpos.2 hlimits
  have hscaled := mul_le_mul_of_nonpos_left (share_mono h hxy) hlength
  exact Int.floor_le_floor (by linarith)

theorem offset_start (first last : ℤ) : axis.offset axis.start first last = 0 := by
  rw [offset, share, sub_self, zero_div, mul_zero, zero_add]
  norm_num

theorem offset_stop (first last : ℤ) : axis.offset axis.stop first last = last - first := by
  rw [offset, share, div_self (sub_pos.2 h).ne', mul_one, Int.floor_intCast_add]
  norm_num

/-- **The values of an axis** come to stand between the pixels of its ends. -/
theorem offset_bounds (first last : ℤ) (hstart : axis.start ≤ x) (hstop : x ≤ axis.stop) :
    first ⊓ last ≤ first + axis.offset x first last ∧ first + axis.offset x first last ≤ first ⊔ last := by
  have hends := offset_start h first last
  have hends' := offset_stop h first last
  rcases le_total first last with hlimits | hlimits
  · have hlow := offset_mono h hlimits hstart
    have hhigh := offset_mono h hlimits hstop
    omega
  · have hlow := offset_anti h hlimits hstop
    have hhigh := offset_anti h hlimits hstart
    omega

/-- **Values that are one apart** come to stand on different pixels, if there is a pixel for each of them. -/
theorem offset_ne (hroom : axis.stop - axis.start ≤ |((last - first : ℤ) : K)|) (hxy : x + 1 ≤ y) :
    axis.offset x first last ≠ axis.offset y first last := by
  have hspan : 0 < axis.stop - axis.start := sub_pos.2 h
  have hshare : 1 / (axis.stop - axis.start) ≤ axis.share y - axis.share x := by
    rw [share, share, ← sub_div]
    exact div_le_div_of_nonneg_right (by linarith) hspan.le
  have hpixel : 1 ≤ |((last - first : ℤ) : K)| * (axis.share y - axis.share x) := calc
    (1 : K) = (axis.stop - axis.start) * (1 / (axis.stop - axis.start)) := (mul_one_div_cancel hspan.ne').symm
    _ ≤ |((last - first : ℤ) : K)| * (axis.share y - axis.share x) :=
      mul_le_mul hroom hshare (one_div_pos.2 hspan).le (abs_nonneg _)
  rw [mul_sub] at hpixel
  rcases le_total 0 ((last - first : ℤ) : K) with hlength | hlength
  · rw [abs_of_nonneg hlength] at hpixel
    exact (floor_lt_floor_of_add_one_le (by linarith)).ne
  · rw [abs_of_nonpos hlength] at hpixel
    exact (floor_lt_floor_of_add_one_le (by linarith)).ne'

end

/-! ## Thirty-two bits -/

/-- the number, if it can be held within 32 bits -/
def int32? (i : ℤ) : Option ℤ := if FitsInt32 i then some i else none

theorem int32?_of_fits {i : ℤ} (h : FitsInt32 i) : int32? i = some i := if_pos h

/-- the pixel of a value, where every whole number on the way has to be held within 32 bits -/
def pixel? (axis : TickedAxis K) (value : K) (first last : ℤ) : Option ℤ := do
  if axis.stop - axis.start ≤ 0 then
    return first
  let length ← int32? (last - first)
  let offset ← int32? ⌊(length : K) * axis.share value + 1 / 1000⌋
  int32? (first + offset)

/-- The number is a limit of a drawing area. -/
def IsLimit (i : ℤ) : Prop := 0 ≤ i ∧ i ≤ 2147483647

instance (i : ℤ) : Decidable (IsLimit i) := inferInstanceAs (Decidable (_ ∧ _))

section

variable {axis : TickedAxis K} (h : axis.start < axis.stop) {first last : ℤ} (hfirst : IsLimit first)
  (hlast : IsLimit last) {x : K} (hstart : axis.start ≤ x) (hstop : x ≤ axis.stop)

include h hfirst hlast hstart hstop

theorem fits_offset : FitsInt32 (axis.offset x first last) := by
  have hbounds := offset_bounds h first last hstart hstop
  unfold FitsInt32 IsLimit at *
  omega

theorem pixel_eq : @pixel K (.exact K) axis x first last = first + axis.offset x first last := by
  rw [pixel_exact h, Scalar.toInt32_of_fits (fits_offset h hfirst hlast hstart hstop)]

/-- **Nothing overflows** on the way to the pixel of a value. -/
theorem pixel?_eq_some : axis.pixel? x first last = some (@pixel K (.exact K) axis x first last) := by
  have hbounds := offset_bounds h first last hstart hstop
  have hoffset := fits_offset h hfirst hlast hstart hstop
  have hlength : FitsInt32 (last - first) := by
    unfold FitsInt32 IsLimit at *
    omega
  have hpixel : FitsInt32 (first + axis.offset x first last) := by
    unfold FitsInt32 IsLimit at *
    omega
  rw [pixel_eq h hfirst hlast hstart hstop, pixel?, if_neg (not_le.2 (sub_pos.2 h))]
  rw [int32?_of_fits hlength]
  show (int32? (axis.offset x first last)).bind (fun offset => int32? (first + offset)) = _
  rw [int32?_of_fits hoffset]
  exact int32?_of_fits hpixel

end

end TickedAxis

/-! ## The map of an axis -/

open TickedAxis in
/-- The map from the values of an axis to pixels runs from one limit to the other, without overflows, and tells values
apart that are one apart if there is a pixel for each of them. -/
structure FaithfulMap (axis : TickedAxis K) (first last : ℤ) : Prop where
  start : @pixel K (.exact K) axis axis.start first last = first
  stop : @pixel K (.exact K) axis axis.stop first last = last
  between : ∀ x, axis.start ≤ x → x ≤ axis.stop → first ⊓ last ≤ @pixel K (.exact K) axis x first last ∧
    @pixel K (.exact K) axis x first last ≤ first ⊔ last
  mono : first ≤ last → ∀ x y, x ≤ y →
    @pixel K (.exact K) axis x first last ≤ @pixel K (.exact K) axis y first last
  anti : last ≤ first → ∀ x y, x ≤ y →
    @pixel K (.exact K) axis y first last ≤ @pixel K (.exact K) axis x first last
  checked : ∀ x, axis.start ≤ x → x ≤ axis.stop →
    axis.pixel? x first last = some (@pixel K (.exact K) axis x first last)
  apart : axis.stop - axis.start ≤ |((last - first : ℤ) : K)| →
    ∀ x y, axis.start ≤ x → x + 1 ≤ y → y ≤ axis.stop →
      @pixel K (.exact K) axis x first last ≠ @pixel K (.exact K) axis y first last
  /-- the same beyond the ends of the axis, as long as 32 bits will do -/
  apart_beyond : axis.stop - axis.start ≤ |((last - first : ℤ) : K)| →
    ∀ x y, x + 1 ≤ y → FitsInt32 (axis.offset x first last) → FitsInt32 (axis.offset y first last) →
      @pixel K (.exact K) axis x first last ≠ @pixel K (.exact K) axis y first last

theorem TickedAxis.pixel_ne {axis : TickedAxis K} (h : axis.start < axis.stop) {first last : ℤ}
    (hroom : axis.stop - axis.start ≤ |((last - first : ℤ) : K)|) {x y : K} (hxy : x + 1 ≤ y)
    (hx : FitsInt32 (axis.offset x first last)) (hy : FitsInt32 (axis.offset y first last)) :
    @pixel K (.exact K) axis x first last ≠ @pixel K (.exact K) axis y first last := by
  have hne := offset_ne h hroom hxy
  rw [pixel_exact h, pixel_exact h, Scalar.toInt32_of_fits hx, Scalar.toInt32_of_fits hy]
  omega

theorem faithfulMap {axis : TickedAxis K} (h : axis.start < axis.stop) {first last : ℤ}
    (hfirst : TickedAxis.IsLimit first) (hlast : TickedAxis.IsLimit last) : FaithfulMap axis first last := by
  constructor
  case start =>
    rw [TickedAxis.pixel_eq h hfirst hlast le_rfl h.le, TickedAxis.offset_start h, add_zero]
  case stop =>
    rw [TickedAxis.pixel_eq h hfirst hlast h.le le_rfl, TickedAxis.offset_stop h, add_sub_cancel]
  case between =>
    intro x hstart hstop
    rw [TickedAxis.pixel_eq h hfirst hlast hstart hstop]
    exact TickedAxis.offset_bounds h first last hstart hstop
  case mono =>
    intro hlimits x y hxy
    rw [TickedAxis.pixel_exact h, TickedAxis.pixel_exact h, add_le_add_iff_left]
    exact Scalar.toInt32_mono (TickedAxis.offset_mono h hlimits hxy)
  case anti =>
    intro hlimits x y hxy
    rw [TickedAxis.pixel_exact h, TickedAxis.pixel_exact h, add_le_add_iff_left]
    exact Scalar.toInt32_mono (TickedAxis.offset_anti h hlimits hxy)
  case checked => exact fun x => TickedAxis.pixel?_eq_some h hfirst hlast
  case apart =>
    intro hroom x y hstart hxy hstop
    exact TickedAxis.pixel_ne h hroom hxy (TickedAxis.fits_offset h hfirst hlast hstart (by linarith))
      (TickedAxis.fits_offset h hfirst hlast (by linarith) hstop)
  case apart_beyond => exact fun hroom x y => TickedAxis.pixel_ne h hroom

/-! ## Categories -/

theorem Line.categoryAxis_ends {g : ChartGroup K} (hpos : 1 ≤ g.nnz.length) :
    (@categoryAxis K (.exact K) g).start = -(1 / 2) ∧
      (@categoryAxis K (.exact K) g).stop = g.nnz.length - 1 / 2 := by
  constructor
  · show (-0.5 : K) = -(1 / 2)
    norm_num
  · show (((g.nnz.length - 1 : ℕ) : ℤ) : K) + 0.5 = g.nnz.length - 1 / 2
    rw [Int.cast_natCast, Nat.cast_sub hpos, Nat.cast_one]
    norm_num
    ring

/-- **Distinct categories have distinct pixels**, if there is a pixel for each of them. -/
theorem Line.pixel_ne_of_categories {g : ChartGroup K} {first last : ℤ} (hfirst : TickedAxis.IsLimit first)
    (hlast : TickedAxis.IsLimit last) (hroom : (g.nnz.length : ℤ) ≤ |last - first|) {c d : ℕ} (hcd : c < d)
    (hd : d < g.nnz.length) :
    @TickedAxis.pixel K (.exact K) (@categoryAxis K (.exact K) g) c first last ≠
      @TickedAxis.pixel K (.exact K) (@categoryAxis K (.exact K) g) d first last := by
  obtain ⟨hstart, hstop⟩ := categoryAxis_ends (K := K) (g := g) (by omega)
  have hlow : (0 : K) ≤ c := Nat.cast_nonneg c
  have hnext : (c : K) + 1 ≤ d := by exact_mod_cast hcd
  have hhigh : (d : K) + 1 ≤ g.nnz.length := by exact_mod_cast hd
  have hmap : FaithfulMap (@categoryAxis K (.exact K) g) first last :=
    faithfulMap (by rw [hstart, hstop]; linarith) hfirst hlast
  refine hmap.apart ?_ c d (by rw [hstart]; linarith) hnext (by rw [hstop]; linarith)
  have hroom : (g.nnz.length : K) ≤ |((last - first : ℤ) : K)| := by
    rw [← Int.cast_abs]
    exact_mod_cast hroom
  rw [hstart, hstop]
  linarith

/-- **The map of an axis is faithful**, and so is the one for the categories of a line chart. -/
theorem pixel_faithful {first last : ℤ} (hfirst : TickedAxis.IsLimit first) (hlast : TickedAxis.IsLimit last) :
    (∀ axis : TickedAxis K, axis.start < axis.stop → FaithfulMap axis first last) ∧
    ∀ g : ChartGroup K, (g.nnz.length : ℤ) ≤ |last - first| → ∀ c d : ℕ, c < d → d < g.nnz.length →
      @TickedAxis.pixel K (.exact K) (@Line.categoryAxis K (.exact K) g) c first last ≠
        @TickedAxis.pixel K (.exact K) (@Line.categoryAxis K (.exact K) g) d first last :=
  ⟨fun _ h => faithfulMap h hfirst hlast, fun _ hroom _ _ => Line.pixel_ne_of_categories hfirst hlast hroom⟩

def tenCategories : TickedAxis ℚ := ⟨-(1 / 2), 19 / 2, []⟩

theorem pixel_faithful_tenCategories : TickedAxis.IsLimit 110 ∧ TickedAxis.IsLimit 10 ∧
    tenCategories.start < tenCategories.stop ∧ FaithfulMap tenCategories 110 10 :=
  have hfirst : TickedAxis.IsLimit 110 := by decide
  have hlast : TickedAxis.IsLimit 10 := by decide
  have hrange : tenCategories.start < tenCategories.stop := by decide +kernel
  ⟨hfirst, hlast, hrange, (pixel_faithful hfirst hlast).1 tenCategories hrange⟩

end KernelCharts
