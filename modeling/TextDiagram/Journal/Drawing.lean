import TextDiagram.CodeBlock
import TextDiagram.Journal.Reading

/-!
# The journal of drawing a diagram

Drawing tells of the grid or the extent of the layout, of the edges that are not drawn, and, in
minute detail, of the parts and the layers of the picture.
-/

namespace TextDiagram.Journal

/-! ## Layouts -/

/-- The width and height of an extent. -/
def extentFields (e : Extent Float32) : List (String × List Char) :=
  [("width", Single.text e.width), ("height", Single.text e.height)]

/-- What is told of an edge when it is laid out: that it leads back to its node. -/
def loopRecords (e : Flow.Edge) : List Record :=
  if e.isLoop then
    [⟨.debug, "mermaid_lite::layout::flowchart", "Skipping self-loop edge", [("node", e.source)]⟩]
  else []

/-- What is told before a diagram is laid out. -/
def preparationRecords : Diagram → List Record
  | .flow chart direction =>
    ⟨.debug, "mermaid_lite::layout::flowchart", "Flowchart grid",
      [("columns", countText chart.grid.columns), ("rows", countText chart.grid.rows),
       ("direction", direction.code)]⟩ :: chart.edges.flatMap loopRecords
  | .sequence conversation =>
    [⟨.debug, "mermaid_lite::layout::sequence", "Sequence canvas",
      extentFields conversation.extent⟩]

/-- What is told of a layout. -/
def layoutRecord (l : Layout Float32) : Record :=
  ⟨.info, "mermaid_lite::layout", "Layout calculated",
    ("kind", l.kind.name.toList) :: extentFields l.extent⟩

/-! ## Pictures -/

/-- What is told of the parts of a picture. -/
def partRecords : Layout Float32 → List Record
  | .flow layout =>
    layout.nodes.map fun n =>
      ⟨.trace, "mermaid_lite::export::svg::flowchart", "Rendering node",
        [("id", n.id), ("position", pointText n.box.position)]⟩
  | .sequence layout =>
    (layout.participants.map fun p =>
      ⟨.trace, "mermaid_lite::export::svg::sequence", "Rendering participant", [("id", p.id)]⟩) ++
    layout.messages.map fun m =>
      ⟨.trace, "mermaid_lite::export::svg::sequence", "Rendering message",
        [("y", Single.text m.y)]⟩

/-- What is told of the layers of a picture, if it has any. -/
def layerRecords (s : Svg.Sketch Float32) : List Record :=
  if s.size = 0 then []
  else
    [⟨.trace, "mermaid_lite_core::draw::layer", "Rendering layered output",
      [("nodes", countText s.size)]⟩,
     ⟨.trace, "mermaid_lite_core::draw::layer", "Rendered layer groups",
      [("groups", countText s.groups.length)]⟩]

/-- What is told while a layout becomes a picture. -/
def pictureRecords (background : Option Color) (l : Layout Float32) : List Record :=
  partRecords l ++ layerRecords (l.sketchOn background) ++
    [⟨.debug, "mermaid_lite::export::svg", "SVG document written",
      [("bytes", countText (Text.byteCount (Picture.ofLayout background l).markup))]⟩,
     ⟨.info, front, "SVG rendered successfully", [("kind", l.kind.name.toList)]⟩]

/-- What is told while a diagram becomes a picture. -/
def drawingRecords (config : Config) (d : Diagram) : List Record :=
  preparationRecords d ++
    match (d.layout : Except LayoutError (Layout Float32)) with
    | .error _ => []
    | .ok layout =>
      layoutRecord layout ::
        match config.backgroundColor with
        | .error _ => []
        | .ok background => pictureRecords background layout

/-! ## Requests -/

/-- What is told while a source becomes a picture. -/
def renderRecords (config : Config) (source : List Char) : List Record :=
  readingRecords source ++
    match Diagram.ofSource source with
    | .error _ => []
    | .ok diagram => drawingRecords config diagram

/-- What is told while a source is shown with the default configuration: also why it does not
become a picture. -/
def displayRecords (source : List Char) : List Record :=
  renderRecords {} source ++
    match render {} source with
    | .error e => [⟨.debug, front, "Diagram is not renderable", [("err", e.message.toList)]⟩]
    | .ok _ => []

end TextDiagram.Journal
