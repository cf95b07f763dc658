/-!
# Drawings

A drawing is the list of its marks, in the order in which they are put on the surface. Pixels count
from the upper left corner.

* `Mark` — a shape or a text with its place and its ink;
* `Region` — a rectangle of the surface, with the ways of cutting it;
* `textWidth` — the room a text is given.
-/

namespace KernelCharts

/-- a pixel, or a distance between two -/
structure Pixel where
  x : Int
  y : Int
deriving DecidableEq, Repr

instance : Add Pixel := ⟨fun p q => ⟨p.x + q.x, p.y + q.y⟩⟩

/-- a color by its red, green and blue parts, up to 255 -/
structure Color where
  red : Nat
  green : Nat
  blue : Nat
deriving DecidableEq, Repr

namespace Color

def white : Color := ⟨255, 255, 255⟩

def black : Color := ⟨0, 0, 0⟩

end Color

/-- a color and how much of it covers what lies below, from 0 to 1 -/
structure Ink where
  color : Color
  alpha : Float
deriving DecidableEq

/-- the ink that hides what lies below -/
def Color.solid (color : Color) : Ink := ⟨color, 1.0⟩

/-- where a text stands with respect to its anchor, from left to right -/
inductive HorizontalAnchor where
  | left
  | center
deriving DecidableEq, Repr

/-- where a text stands with respect to its anchor, from top to bottom -/
inductive VerticalAnchor where
  | top
  | middle
  | bottom
deriving DecidableEq, Repr

/-- a text with its font size in pixels, its anchor and its rotation in degrees -/
structure Label where
  text : String
  size : Nat
  horizontal : HorizontalAnchor
  vertical : VerticalAnchor
  rotation : Nat
deriving DecidableEq, Repr

inductive Mark where
  /-- a rectangle between two corners, filled or as a frame -/
  | rect (corner opposite : Pixel) (ink : Ink) (filled : Bool)
  /-- a line through some points -/
  | path (points : List Pixel) (ink : Ink) (stroke : Nat)
  /-- a filled polygon -/
  | polygon (corners : List Pixel) (ink : Ink)
  /-- a circle, filled or as a line -/
  | circle (center : Pixel) (radius : Nat) (ink : Ink) (filled : Bool)
  /-- a straight line -/
  | line (first last : Pixel) (ink : Ink) (stroke : Nat)
  /-- a text at its anchor -/
  | label (label : Label) (anchor : Pixel)
deriving DecidableEq

/-- the room given to a text: six tenths of the font size for a character -/
def textWidth (size : Nat) (text : String) : Nat := text.length * size * 6 / 10

/-! ## Regions -/

/-- a rectangle of the surface; its right and bottom edges lie outside -/
structure Region where
  left : Int
  top : Int
  right : Int
  bottom : Int
deriving DecidableEq, Repr

namespace Region

def ofSize (size : Nat × Nat) : Region := ⟨0, 0, size.1, size.2⟩

def corner (r : Region) : Pixel := ⟨r.left, r.top⟩

/-- the region without a margin on each side -/
def shrink (r : Region) (margin : Int) : Region :=
  ⟨r.left + margin, r.top + margin, r.right - margin, r.bottom - margin⟩

/-- the band of a given height at the top, and the rest -/
def splitTop (r : Region) (height : Int) : Region × Region :=
  ({ r with bottom := r.top + height }, { r with top := r.top + height })

/-- the edge between piece `i - 1` and piece `i` of `n` nearly equal pieces between `a` and `b`;
the first pieces are a pixel longer when the length is no multiple of `n` -/
def cut (a b : Int) (n i : Nat) : Int :=
  a + i * (b - a).tdiv n + min (i : Int) ((b - a).tmod n)

/-- the region cut into equal panels, along the rows -/
def splitEvenly (r : Region) (rows cols : Nat) : List Region :=
  (List.range rows).flatMap fun row => (List.range cols).map fun col =>
    { left := cut r.left r.right cols col
      top := cut r.top r.bottom rows row
      right := cut r.left r.right cols (col + 1)
      bottom := cut r.top r.bottom rows (row + 1) }

end Region

end KernelCharts
