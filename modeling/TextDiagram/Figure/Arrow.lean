import TextDiagram.Figure.Basic

/-!
# Arrows and lifelines

An arrow is a straight line between two points with a head at its end. All arrows of a picture share
one definition of the head. A lifeline is a dashed vertical line below the head of a participant.
-/

namespace TextDiagram

open Coordinate Svg

/-! ## Arrows -/

/-- A straight arrow. -/
structure Arrow (α : Type) where
  /-- Where the arrow starts. -/
  start : Point α
  /-- Where the arrow ends, at its head. -/
  finish : Point α
  /-- The class of the line in the markup. -/
  style : List Char

namespace Arrow

/-- The id of the definition of the head. -/
def headId : List Char := "pn-mermaid-arrow".toList

variable {α : Type}

/-- An arrow drawn where it is. -/
def sketch (a : Arrow α) : Sketch α :=
  .single .arrow <| .element "line"
    [("class", .text a.style), ("marker-end", .text ("url(#".toList ++ headId ++ [')'])),
     ("stroke", .text strokeColor), ("stroke-width", .text "1.5".toList),
     ("x1", .number a.start.x), ("x2", .number a.finish.x), ("y1", .number a.start.y),
     ("y2", .number a.finish.y)] []

variable [Coordinate α]

/-- The definition of the head that all arrows share. -/
def headDefinition : Node α :=
  .element "defs" []
    [.element "marker"
      [("id", .text headId), ("markerHeight", .number (whole 7)),
       ("markerWidth", .number (whole 7)), ("orient", .text "auto-start-reverse".toList),
       ("refX", .number (whole 9)), ("refY", .number (whole 5)),
       ("viewBox", .numbers [whole 0, whole 0, whole 10, whole 10])]
      [.element "path"
        [("d", .text "M 0 0 L 10 5 L 0 10 z".toList), ("fill", .text strokeColor)] []]]

end Arrow

/-! ## Lifelines -/

/-- A dashed vertical line. -/
structure Lifeline (α : Type) where
  /-- The length of the line. -/
  height : α

namespace Lifeline

/-- The width of the stroke. -/
def strokeWidth : Nat := 1

variable {α : Type} [Coordinate α]

/-- The width and height of a lifeline. -/
def extent (l : Lifeline α) : Extent α :=
  ⟨whole strokeWidth, l.height⟩

/-- A lifeline drawn around its midpoint. -/
def draw (l : Lifeline α) (p : Point α) : Sketch α :=
  .single .lifeline <| .element "line"
    [("class", .text "pn-mermaid-lifeline".toList), ("stroke", .text "#94a3b8".toList),
     ("stroke-dasharray", .text "4 4".toList), ("stroke-width", .number (whole strokeWidth)),
     ("x1", .number p.x), ("x2", .number p.x), ("y1", .number (p.y - half l.height)),
     ("y2", .number (p.y + half l.height))] []

instance : Figure (Lifeline α) α where
  extent := extent
  draw := draw

end Lifeline

end TextDiagram
