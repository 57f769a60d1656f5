import TextDiagram.Journal.Inspect
import TextDiagram.Journal.Record
import TextDiagram.Text.Characters

/-!
# The journal of reading a source

Reading a source tells of the statements that say nothing, of labels that replace an id, and of the
diagram that comes out.
-/

namespace TextDiagram.Journal

open Text

/-! ## Statements of flow charts -/

/-- The part that reads flow charts. -/
def flowReader : String := "mermaid_lite_parser::flowchart"

/-- A record about a statement. -/
def aboutStatement (target message : String) (statement : List Char) : Record :=
  ⟨.debug, target, message, [("statement", quote statement)]⟩

/-- What is told of a mention: whether its label replaces an id. -/
def mentionRecords (c : Flow.Chart) : Flow.Mention → List Record
  | .node id (some label) _ =>
    if !label.isEmpty && (c.find? id).any Flow.Node.isUnlabelled then
      [⟨.debug, "mermaid_lite_core::semantic::flowchart", "Upgrading bare node label",
        [("id", id), ("label", label)]⟩]
    else []
  | _ => []

/-- What is told of some mentions, one after the other. -/
def mentionsRecords : Flow.Chart → List Flow.Mention → List Record
  | _, [] => []
  | c, mention :: rest => mentionRecords c mention ++ mentionsRecords (c.mention mention) rest

/-- What is told of the reading of a statement, apart from its mentions. -/
def statementRecords (statement : List Char) : Flow.Reading → List Record
  | .keyword =>
    [aboutStatement flowReader "Skipping unsupported flowchart keyword" statement]
  | .brokenEdge =>
    [aboutStatement flowReader "Dropping unparseable flowchart edge" statement]
  | .unreadable =>
    [aboutStatement flowReader "Dropping unparseable flowchart statement" statement]
  | .node _ | .edge _ _ => []

/-- What is told of the statements of a flow chart. -/
def flowRecords : Flow.Chart → List (List Char) → List Record
  | _, [] => []
  | c, statement :: rest =>
    let reading := Flow.read statement
    statementRecords statement reading ++ mentionsRecords c reading.mentions ++
      flowRecords (reading.mentions.foldl Flow.Chart.mention c) rest

/-! ## Statements of sequence diagrams -/

/-- The part that reads sequence diagrams. -/
def sequenceReader : String := "mermaid_lite_parser::sequence"

/-- What is told of a statement of a sequence diagram. -/
def sequenceRecords (statement : List Char) : List Record :=
  match Sequence.read statement with
  | .keyword =>
    [aboutStatement sequenceReader "Skipping unsupported sequence keyword" statement]
  | .unreadable =>
    [aboutStatement sequenceReader "Dropping unparseable sequence statement" statement]
  | .declaration _ | .message _ => []

/-! ## Sources -/

/-- The part that reads sources. -/
def sourceReader : String := "mermaid_lite_parser"

/-- The part that answers requests. -/
def front : String := "mermaid_lite"

/-- What is told of the statements below the heading. -/
def bodyRecords : List (List Char) → List Record
  | [] => []
  | first :: rest =>
    match Heading.ofStatements? first rest with
    | none => []
    | some .sequence => rest.flatMap sequenceRecords
    | some (.flow _) => flowRecords .empty rest
    | some .missing => flowRecords .empty (first :: rest)

/-- What a diagram consists of. -/
def sizeRecord : Diagram → Record
  | .flow chart direction =>
    ⟨.info, sourceReader, "Parsed flowchart",
      [("nodes", countText chart.nodes.length), ("edges", countText chart.edges.length),
       ("direction", direction.code)]⟩
  | .sequence conversation =>
    ⟨.info, sourceReader, "Parsed sequence diagram",
      [("participants", countText conversation.participants.length),
       ("messages", countText conversation.messages.length)]⟩

/-- What is told of a diagram that is read. -/
def diagramRecords (d : Diagram) : List Record :=
  [sizeRecord d,
   ⟨.trace, sourceReader, "Parsed diagram model", [("diagram", diagramText d)]⟩,
   ⟨.debug, front, "Diagram parsed successfully", [("kind", d.kind.name.toList)]⟩,
   ⟨.trace, front, "Parsed diagram", [("diagram", diagramText d)]⟩]

/-- What is told while a source is read. -/
def readingRecords (source : List Char) : List Record :=
  [⟨.info, front, "Parsing diagram", [("bytes", countText (byteCount source))]⟩,
   ⟨.debug, sourceReader, "Split diagram source",
    [("statement_count", countText (statements source).length)]⟩] ++
    bodyRecords (statements source) ++
    match Diagram.ofSource source with
    | .ok diagram => diagramRecords diagram
    | .error _ => []

end TextDiagram.Journal
