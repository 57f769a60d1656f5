import TextDiagram.Plane
import TextDiagram.Svg.Sketch

/-!
# Figures

A figure has an extent and can be drawn around any point of the plane. Most figures are placed: they
come with the point around which they are drawn.
-/

namespace TextDiagram

/-- What can be drawn around a point of a plane with coordinates in `α`. -/
class Figure (φ : Type) (α : Type) where
  /-- The width and height of a figure. -/
  extent : φ → Extent α
  /-- The figure drawn around a point. -/
  draw : φ → Point α → Svg.Sketch α

/-- A figure with the point around which it is drawn. -/
structure Placed (φ : Type) (α : Type) where
  /-- The figure. -/
  figure : φ
  /-- The centre of the figure. -/
  position : Point α

namespace Placed

variable {φ α : Type} [Figure φ α]

/-- The figure drawn around its own point. -/
def sketch (p : Placed φ α) : Svg.Sketch α :=
  Figure.draw p.figure p.position

/-- The frame of the figure. -/
def frame [Coordinate α] (p : Placed φ α) : Frame α :=
  p.position.frame (Figure.extent p.figure)

/-- A placed figure stays where it is, whatever point it is to be drawn around. -/
instance : Figure (Placed φ α) α where
  extent p := Figure.extent p.figure
  draw p _ := p.sketch

end Placed

/-- The colour of the outlines and arrows. -/
def strokeColor : List Char := "#334155".toList

end TextDiagram
