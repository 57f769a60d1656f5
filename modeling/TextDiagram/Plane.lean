/-!
# The plane

Diagrams are placed on a plane whose origin is the upper left corner; `x` grows to the right and `y`
grows downwards. The coordinates are of any type with arithmetic and an order test
(`Coordinate`): pictures are drawn in single precision, while statements about positions are made
with rational coordinates.
-/

namespace TextDiagram

/-- The arithmetic that placing a diagram needs. -/
class Coordinate (α : Type) extends NatCast α, Add α, Sub α, Mul α, Div α, Neg α where
  /-- Whether the first coordinate is less than the second. -/
  less : α → α → Bool

instance : Coordinate Float32 where
  natCast := Float32.ofNat
  less x y := decide (x < y)

instance : Coordinate Rat where
  less x y := decide (x < y)

namespace Coordinate

variable {α : Type} [Coordinate α]

/-- A whole number as a coordinate. -/
def whole (n : Nat) : α := (n : α)

/-- Half of a coordinate. -/
def half (x : α) : α := x / whole 2

/-- The distance of a coordinate from zero. -/
def magnitude (x : α) : α := if less x (whole 0) then -x else x

/-- Minus one left of zero, and one elsewhere. -/
def sign (x : α) : α := if less x (whole 0) then -(whole 1) else whole 1

end Coordinate

open Coordinate

/-- A point of the plane. -/
structure Point (α : Type) where
  /-- The distance from the left edge. -/
  x : α
  /-- The distance from the upper edge. -/
  y : α
  deriving DecidableEq, Repr

/-- The width and height of a figure. -/
structure Extent (α : Type) where
  /-- The horizontal extent. -/
  width : α
  /-- The vertical extent. -/
  height : α
  deriving DecidableEq, Repr

/-- An upright rectangle of the plane, given by its sides. -/
structure Frame (α : Type) where
  /-- The left side. -/
  left : α
  /-- The upper side. -/
  top : α
  /-- The right side. -/
  right : α
  /-- The lower side. -/
  bottom : α
  deriving DecidableEq, Repr

/-- The upper left corner of a frame. -/
def Frame.corner {α : Type} (f : Frame α) : Point α := ⟨f.left, f.top⟩

variable {α : Type} [Coordinate α]

/-- The upper left corner of the plane. -/
def Point.origin : Point α := ⟨whole 0, whole 0⟩

/-- The step from the second point to the first. -/
def Point.sub (p q : Point α) : Point α := ⟨p.x - q.x, p.y - q.y⟩

/-- The point halfway between two points. -/
def Point.midpoint (p q : Point α) : Point α := ⟨half (p.x + q.x), half (p.y + q.y)⟩

/-- The frame of an extent centred on a point. -/
def Point.frame (p : Point α) (e : Extent α) : Frame α where
  left := p.x - half e.width
  top := p.y - half e.height
  right := p.x + half e.width
  bottom := p.y + half e.height

/-- The distance between the left and the right side. -/
def Frame.width (f : Frame α) : α := f.right - f.left

/-- The distance between the upper and the lower side. -/
def Frame.height (f : Frame α) : α := f.bottom - f.top

end TextDiagram
