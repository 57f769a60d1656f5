import TextDiagram.Figure.Arrow
import TextDiagram.Figure.Box
import TextDiagram.Flow.Chart
import TextDiagram.Flow.Grid
import TextDiagram.Text.Fit

/-!
# The layout of a flow chart

Every node of a flow chart becomes a box in the middle of its cell, and every edge between two nodes
an arrow between facing sides of their boxes. Edges that lead back to their node are not drawn.
-/

namespace TextDiagram.Flow

open Coordinate

/-! ## Measures -/

/-- The width of a box. -/
def boxWidth : Nat := 168

/-- The height of a box. -/
def boxHeight : Nat := 56

/-- The distance between neighbouring columns. -/
def columnGap : Nat := 44

/-- The distance between neighbouring rows. -/
def rowGap : Nat := 34

/-- The distance between the boxes and the edges of the picture. -/
def padding : Nat := 28

/-- The number of characters of a label that are shown. -/
def labelLimit : Nat := 44

/-- The number of characters in a line of a label. -/
def labelWidth : Nat := 18

/-- The number of lines of a label. -/
def labelLines : Nat := 3

/-! ## Boxes and arrows -/

/-- A node with its box on the plane. -/
structure PlacedNode (α : Type) where
  /-- The id of the node. -/
  id : List Char
  /-- The box of the node. -/
  box : Placed (Box α) α

/-- The layout of a flow chart. -/
structure Layout (α : Type) where
  /-- The boxes of the nodes, in the order of the nodes. -/
  nodes : List (PlacedNode α)
  /-- The arrows of the edges that are drawn, in the order of the edges. -/
  arrows : List (Arrow α)
  /-- The extent of the whole picture. -/
  extent : Extent α

/-- An edge has an end that is no node. -/
structure LayoutError where
  /-- The id that names no node. -/
  id : List Char
  deriving DecidableEq, Repr

variable {α : Type} [Coordinate α]

/-- The extent of every box. -/
def boxExtent : Extent α := ⟨whole boxWidth, whole boxHeight⟩

/-- The lines of a label as a box shows them. -/
def shownLines (label : List Char) : List (List Char) :=
  Text.wrap labelWidth labelLines (Text.shorten labelLimit label)

/-- The box of a node. -/
def Node.box (n : Node) : Box α where
  extent := boxExtent
  style := "pn-mermaid-node".toList
  cornerRadius := whole n.shape.cornerRadius
  label := some ⟨shownLines n.label, "pn-mermaid-label".toList⟩

/-- The middle of a cell. -/
def Cell.center (c : Cell) : Point α where
  x := whole padding + whole c.column * (whole boxWidth + whole columnGap) + half (whole boxWidth)
  y := whole padding + whole c.row * (whole boxHeight + whole rowGap) + half (whole boxHeight)

/-- The length of a number of boxes in a row with gaps between them. -/
def span (count length gap : Nat) : α :=
  if count = 0 then whole 0 else whole count * whole length + whole (count - 1) * whole gap

/-- The extent of a picture with a grid: the boxes, and the padding around them. -/
def Grid.extent (g : Grid) : Extent α where
  width := whole padding * whole 2 + span g.columns boxWidth columnGap
  height := whole padding * whole 2 + span g.rows boxHeight rowGap

/-- Half of an extent in the direction of a step. -/
def reach (step size : α) : α :=
  half (sign step * size)

/-- The arrow from one box to another, between the sides that face each other along the longer
distance of their centres. -/
def connection (p q : Point α) (e : Extent α) (style : List Char) : Arrow α :=
  let step := q.sub p
  if less (magnitude step.y) (magnitude step.x) then
    ⟨{ p with x := p.x + reach step.x e.width }, { q with x := q.x - reach step.x e.width }, style⟩
  else
    ⟨{ p with y := p.y + reach step.y e.height }, { q with y := q.y - reach step.y e.height },
      style⟩

/-! ## Layout -/

namespace Chart

/-- The grid of a chart. -/
def grid (c : Chart) : Grid := .ofCount c.nodes.length

/-- The boxes of the nodes, each in the middle of its cell. -/
def placedNodes (c : Chart) (direction : Direction) : List (PlacedNode α) :=
  c.nodes.zipIdx.map fun (n, i) => ⟨n.id, ⟨n.box, (c.grid.cell direction i).center⟩⟩

/-- The centre of the box of a node. -/
def center? (c : Chart) (direction : Direction) (id : List Char) :
    Except LayoutError (Point α) :=
  match c.index? id with
  | none => .error ⟨id⟩
  | some i => .ok (c.grid.cell direction i).center

/-- The arrow of an edge between two nodes. -/
def arrow (c : Chart) (direction : Direction) (e : Edge) : Except LayoutError (Arrow α) := do
  let p ← c.center? direction e.source
  let q ← c.center? direction e.target
  return connection p q boxExtent "pn-mermaid-edge".toList

/-- The edges that are drawn. -/
def drawnEdges (c : Chart) : List Edge :=
  c.edges.filter fun e => !e.isLoop

/-- The layout of a chart that is read in a direction. -/
def layout (c : Chart) (direction : Direction) : Except LayoutError (Layout α) := do
  let arrows ← c.drawnEdges.mapM (c.arrow direction)
  return ⟨c.placedNodes direction, arrows, c.grid.extent⟩

end Chart

/-- The wording of a fault in a layout. -/
def LayoutError.message (e : LayoutError) : String :=
  "edge refers to unknown node `" ++ String.ofList e.id ++ "`"

namespace Layout

/-- The boxes of the nodes, then the arrows of the edges. -/
def sketch (l : Layout α) : Svg.Sketch α :=
  .join (l.nodes.map (fun n => n.box.sketch) ++ l.arrows.map Arrow.sketch)

end Layout

end TextDiagram.Flow
