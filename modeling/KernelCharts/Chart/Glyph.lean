import KernelCharts.Chart.Drawing
import KernelCharts.Kernel.Basic

/-!
# Series styles and glyphs

Every kernel has one color and one glyph, the same in all panels and in the legend.

* `Marker` — the shapes of glyphs;
* `Kernel.style` — the color and the shape of a kernel;
* `Marker.marks` — a glyph on the surface.
-/

namespace KernelCharts

inductive Marker where
  | circle
  | square
  | diamond
  | triangleUp
  | triangleDown
  | plus
  | cross
  | star
  | pentagon
deriving DecidableEq, Repr

structure SeriesStyle where
  color : Color
  marker : Marker
deriving DecidableEq, Repr

def Kernel.style : Kernel → SeriesStyle
  | zcx => ⟨⟨0x8c, 0x56, 0x4b⟩, .pentagon⟩
  | bsmr => ⟨⟨0x1f, 0x77, 0xb4⟩, .circle⟩
  | flashSparse => ⟨⟨0xd6, 0x27, 0x28⟩, .square⟩
  | roDe => ⟨⟨0x94, 0x67, 0xbd⟩, .diamond⟩
  | aspt => ⟨⟨0xf0, 0xe4, 0x42⟩, .triangleUp⟩
  | cuSddmm => ⟨⟨0x17, 0xbe, 0xcf⟩, .triangleDown⟩
  | cuSparse => ⟨⟨0x2c, 0xa0, 0x2c⟩, .plus⟩
  | tcgnn => ⟨⟨0xff, 0x7f, 0x0e⟩, .cross⟩
  | sputnik => ⟨⟨0xe3, 0x77, 0xc2⟩, .star⟩

namespace Marker

/-! ## Outlines -/

/-- half a turn, in radians -/
def halfTurn : Float := Float.ofBits 0x400921FB54442D18

def nearestPixel (x : Float) : Int := x.round.toInt32.toInt

/-- corner `i` of `n` on a circle of radius `r`, clockwise from the top -/
def cornerAt (n : Nat) (r : Float) (i : Nat) : Pixel :=
  let angle := -(halfTurn / 2.0) + Float.ofNat i * 2.0 * halfTurn / Float.ofNat n
  ⟨nearestPixel (r * angle.cos), nearestPixel (r * angle.sin)⟩

/-- a regular polygon around the origin, its first corner at the top -/
def regularPolygon (corners : Nat) (radius : Float) : List Pixel :=
  (List.range corners).map (cornerAt corners radius)

/-- a star around the origin: its corners lie on the outer and the inner radius by turns -/
def starPolygon (corners : Nat) (radius inner : Float) : List Pixel :=
  (List.range (corners * 2)).map fun i =>
    cornerAt (corners * 2) (if i % 2 = 1 then inner else radius) i

/-- an upright cross with arms of a third of the size -/
def plusOutline (s : Int) : List Pixel :=
  let t := max (s.tdiv 3) 1
  [⟨-t, -s⟩, ⟨t, -s⟩, ⟨t, -t⟩, ⟨s, -t⟩, ⟨s, t⟩, ⟨t, t⟩, ⟨t, s⟩, ⟨-t, s⟩, ⟨-t, t⟩, ⟨-s, t⟩, ⟨-s, -t⟩,
    ⟨-t, -t⟩]

/-! ## Glyphs -/

/-- a glyph of radius `size` around a pixel -/
def marks (marker : Marker) (center : Pixel) (size : Int) (ink : Ink) : List Mark :=
  let s := size
  let r := Float.ofInt size
  let place (corners : List Pixel) : List Mark := [.polygon (corners.map (center + ·)) ink]
  match marker with
  | circle => [.circle center size.toNat ink true]
  | square =>
    let lo := min (-s) s
    let hi := max (-s) s
    [.rect (center + ⟨lo, lo⟩) (center + ⟨hi, hi⟩) ink true]
  | diamond => place [⟨0, -s⟩, ⟨s, 0⟩, ⟨0, s⟩, ⟨-s, 0⟩]
  | triangleUp => place (regularPolygon 3 r)
  | triangleDown => place ((regularPolygon 3 r).map fun p => ⟨p.x, -p.y⟩)
  | plus => place (plusOutline s)
  | cross =>
    [.line (center + ⟨-s, -s⟩) (center + ⟨s, s⟩) ink 2,
      .line (center + ⟨-s, s⟩) (center + ⟨s, -s⟩) ink 2]
  | star => place (starPolygon 5 r (r * 0.45))
  | pentagon => place (regularPolygon 5 r)

end Marker

end KernelCharts
