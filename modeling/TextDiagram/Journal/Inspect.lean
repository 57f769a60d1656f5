import TextDiagram.Diagram
import TextDiagram.Plane
import TextDiagram.Decimal.Single
import TextDiagram.Text.Quoted

/-!
# Values in full

The journal can show a diagram in full, on one line: a structure by its name and its fields, a list
between square brackets, a table between braces, and texts in quotes.
-/

namespace TextDiagram.Journal

open Text

/-! ## Structures, lists and tables -/

/-- Pieces with a comma between neighbours. -/
def commas (pieces : List (List Char)) : List Char :=
  ", ".toList.intercalate pieces

/-- A structure: its name, and its fields in order. -/
def structureText (name : String) (fields : List (String × List Char)) : List Char :=
  name.toList ++ " \x7b ".toList ++
    commas (fields.map fun (name, value) => name.toList ++ ": ".toList ++ value) ++
    " \x7d".toList

/-- A list of values. -/
def listText (values : List (List Char)) : List Char :=
  '[' :: commas values ++ [']']

/-- A table of values by quoted key. -/
def tableText (entries : List (List Char × List Char)) : List Char :=
  '\x7b' :: commas (entries.map fun (key, value) => quote key ++ ": ".toList ++ value) ++
    ['\x7d']

/-! ## Diagrams -/

/-- The name of a shape. -/
def shapeText : Flow.Shape → List Char
  | .bare => "Bare".toList
  | .square => "Square".toList
  | .round => "Round".toList
  | .circle => "Circle".toList
  | .rhombus => "Rhombus".toList

/-- A node in full. -/
def nodeText (n : Flow.Node) : List Char :=
  structureText "FlowNode"
    [("id", quote n.id), ("label", quote n.label), ("shape", shapeText n.shape)]

/-- An edge in full. -/
def edgeText (e : Flow.Edge) : List Char :=
  structureText "FlowEdge" [("from", quote e.source), ("to", quote e.target)]

/-- A flow chart in full. -/
def chartText (c : Flow.Chart) : List Char :=
  structureText "FlowGraph"
    [("nodes", tableText (c.nodes.map fun n => (n.id, nodeText n))),
     ("edges", listText (c.edges.map edgeText))]

/-- A participant in full. -/
def participantText (p : Sequence.Participant) : List Char :=
  structureText "Participant" [("id", quote p.id), ("label", quote p.label)]

/-- A message in full. -/
def messageText (m : Sequence.Message) : List Char :=
  structureText "Message"
    [("from", quote m.sender), ("to", quote m.receiver), ("text", quote m.text)]

/-- A conversation in full. -/
def conversationText (c : Sequence.Conversation) : List Char :=
  structureText "SequenceGraph"
    [("participants", tableText (c.participants.map fun p => (p.id, participantText p))),
     ("messages", listText (c.messages.map messageText))]

/-- A diagram in full. -/
def diagramText : Diagram → List Char
  | .flow chart direction =>
    structureText "Flowchart" [("graph", chartText chart), ("direction", direction.code)]
  | .sequence conversation => "Sequence(".toList ++ conversationText conversation ++ [')']

/-- A point in full. -/
def pointText (p : Point Float32) : List Char :=
  structureText "Point"
    [("x", Single.textWithPoint p.x), ("y", Single.textWithPoint p.y)]

end TextDiagram.Journal
