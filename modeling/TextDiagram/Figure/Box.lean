import TextDiagram.Figure.Label

/-!
# Boxes

A box is a rectangle around a point, perhaps with rounded corners and a label in its middle. It
stands for a node of a flow chart or heads the lifeline of a participant.
-/

namespace TextDiagram

open Coordinate Svg

/-- A rectangle with a label. -/
structure Box (α : Type) where
  /-- The width and height. -/
  extent : Extent α
  /-- The class of the rectangle in the markup. -/
  style : List Char
  /-- The radius of the corners. -/
  cornerRadius : α
  /-- The label in the middle, if there is one. -/
  label : Option Label

namespace Box

variable {α : Type} [Coordinate α]

/-- The rectangle of a box around a point. -/
def rectangle (b : Box α) (p : Point α) : Node α :=
  let corner := (p.frame b.extent).corner
  .element "rect"
    [("class", .text b.style), ("fill", .text "white".toList),
     ("height", .number b.extent.height), ("rx", .number b.cornerRadius),
     ("stroke", .text strokeColor), ("stroke-width", .text "1.5".toList),
     ("width", .number b.extent.width), ("x", .number corner.x), ("y", .number corner.y)] []

/-- A box drawn around a point: the rectangle, and the label above it. -/
def draw (b : Box α) (p : Point α) : Sketch α :=
  let outline := Sketch.single .content (b.rectangle p)
  match b.label with
  | none => outline
  | some label => outline ++ label.draw p

instance : Figure (Box α) α where
  extent := extent
  draw := draw

end Box

end TextDiagram
