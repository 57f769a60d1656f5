import TextDiagram.Figure.Basic

/-!
# Labels

A label is a block of lines, one below the other, centred on a point. Main statement: a label whose
lines are all empty draws nothing (`draw_of_isBlank`).
-/

namespace TextDiagram

open Coordinate Svg

/-- A block of lines. -/
structure Label where
  /-- The lines from the top down. -/
  lines : List (List Char)
  /-- The class of the text in the markup. -/
  style : List Char
  deriving DecidableEq, Repr

namespace Label

/-- The distance between the centres of neighbouring lines. -/
def lineHeight : Nat := 16

/-- The size of the font. -/
def fontSize : Nat := 13

/-- The width that one character is reckoned to take. -/
def charWidth : Nat := 7

/-- A label of one line. -/
def single (line style : List Char) : Label := ⟨[line], style⟩

/-- Whether a label shows nothing. -/
def isBlank (l : Label) : Bool :=
  l.lines.all List.isEmpty

/-- The number of characters of the longest line. -/
def longest (l : Label) : Nat :=
  (l.lines.map List.length).foldl max 0

variable {α : Type} [Coordinate α]

/-- The width and height that a label is reckoned to take. -/
def extent (l : Label) : Extent α :=
  ⟨whole l.longest * whole charWidth, whole l.lines.length * whole lineHeight⟩

/-- The height of the first line of a label around a point: the lines are centred on the point. -/
def firstLine (l : Label) (p : Point α) : α :=
  p.y - half (whole (l.lines.length - 1) * whole lineHeight)

/-- The lines of a label from a height down. -/
def spans (x first : α) (lines : List (List Char)) : List (Node α) :=
  lines.zipIdx.map fun (line, i) =>
    .element "tspan" [("x", .number x), ("y", .number (first + whole i * whole lineHeight))]
      [.line (escape line)]

/-- A label drawn around a point, if it shows anything. -/
def draw (l : Label) (p : Point α) : Sketch α :=
  if l.isBlank then .empty
  else .single .text <| .element "text"
    [("class", .text l.style), ("dominant-baseline", .text "central".toList),
     ("font-family", .text "sans-serif".toList), ("font-size", .number (whole fontSize)),
     ("text-anchor", .text "middle".toList), ("x", .number p.x),
     ("y", .number (l.firstLine p))]
    (.line [] :: spans p.x (l.firstLine p) l.lines)

instance : Figure Label α where
  extent := extent
  draw := draw

/-- A label that shows nothing draws nothing. -/
theorem draw_of_isBlank {l : Label} (h : l.isBlank = true) (p : Point α) :
    l.draw p = .empty := by
  simp [draw, h]

end Label

end TextDiagram
