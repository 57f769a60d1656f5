import TextDiagram.Color.Notation
import TextDiagram.Layout

/-!
# Pictures

A picture is the markup of a diagram with its kind and its extent. It is drawn from a layout,
perhaps on a coloured background, and its text is one element that holds the definition of the arrow
head and the layers of the diagram.
-/

namespace TextDiagram

open Coordinate Svg

/-- How pictures are to look. -/
structure Config where
  /-- The notation of the colour of the background, if it has one. -/
  background : Option (List Char) := none
  deriving DecidableEq, Repr, Inhabited

/-- Why a source does not become a picture. -/
inductive RenderError
  /-- The source describes no diagram. -/
  | source (fault : SourceError)
  /-- The diagram cannot be laid out. -/
  | layout (fault : LayoutError)
  /-- The background of the configuration is no colour. -/
  | background (text : List Char) (fault : ColorError)
  deriving DecidableEq, Repr

/-- The wording of a refused colour. -/
def invalidColor (text : List Char) (fault : ColorError) : String :=
  "invalid color `" ++ String.ofList text ++ "`: " ++ fault.message

/-- The wording of an error. -/
def RenderError.message : RenderError → String
  | source fault => "Parse error: " ++ fault.message
  | layout fault => "Layout error: " ++ fault.message
  | background text fault =>
    "Export error: Render error: Invalid background color in config: " ++ invalidColor text fault

/-! ## The document -/

section Document

variable {α : Type} [Coordinate α]

/-- A rectangle that fills the picture with a colour. -/
def backdrop (color : Color) (extent : Extent α) : Sketch α :=
  .single .background <| .element "rect"
    [("class", .text "pn-mermaid-background".toList), ("fill", .text color.css),
     ("height", .number extent.height), ("width", .number extent.width),
     ("x", .number (whole 0)), ("y", .number (whole 0))] []

/-- The layers of a diagram, and the background if it has one. -/
def Layout.sketchOn (background : Option Color) (l : Layout α) : Sketch α :=
  match background with
  | none => l.sketch
  | some color => l.sketch ++ backdrop color l.extent

/-- The element that holds a picture. -/
def root (extent : Extent α) (groups : List (Node α)) : Node α :=
  .element "svg"
    [("class", .text "pn-mermaid".toList), ("height", .number extent.height),
     ("viewBox", .numbers [whole 0, whole 0, extent.width, extent.height]),
     ("width", .number extent.width), ("xmlns", .text "http://www.w3.org/2000/svg".toList)]
    (Arrow.headDefinition :: groups)

/-- A layout as a document: the arrow head, and the groups of the layers from the bottom up. -/
def Layout.document (background : Option Color) (l : Layout α) : Node α :=
  root l.extent (l.sketchOn background).groups

end Document

/-! ## Pictures -/

/-- A finished picture. -/
structure Picture where
  /-- The kind of the diagram. -/
  kind : Kind
  /-- The extent of the picture. -/
  extent : Extent Float32
  /-- The text of the picture. -/
  markup : List Char
  deriving DecidableEq, Repr

/-- The picture of a layout. -/
def Picture.ofLayout (background : Option Color) (l : Layout Float32) : Picture where
  kind := l.kind
  extent := l.extent
  markup := (l.document background).markup

/-- The colour of the background of a configuration, if it has one. -/
def Config.backgroundColor (config : Config) : Except RenderError (Option Color) :=
  match config.background with
  | none => .ok none
  | some text =>
    match Color.ofText text with
    | .ok color => .ok (some color)
    | .error fault => .error (.background text fault)

/-- The picture of a diagram. -/
def Diagram.render (config : Config) (d : Diagram) : Except RenderError Picture := do
  let layout ← d.layout.mapError .layout
  let background ← config.backgroundColor
  return .ofLayout background layout

/-- The picture that a source describes. -/
def render (config : Config) (source : List Char) : Except RenderError Picture := do
  let diagram ← (Diagram.ofSource source).mapError .source
  diagram.render config

end TextDiagram
