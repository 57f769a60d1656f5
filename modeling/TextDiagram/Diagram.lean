import TextDiagram.Flow.Direction
import TextDiagram.Flow.Statement
import TextDiagram.Sequence.Statement
import TextDiagram.Statement

/-!
# Diagrams

A source describes a flow chart or a conversation. Its first statement tells which; without a
heading that is known, a source with an edge operator anywhere is a flow chart. A source that
describes no diagram is refused for one of five reasons (`SourceError`).
-/

namespace TextDiagram

open Text

/-- A diagram that a source describes. -/
inductive Diagram
  /-- A flow chart and the direction in which it is read. -/
  | flow (chart : Flow.Chart) (direction : Flow.Direction)
  /-- A conversation. -/
  | sequence (conversation : Sequence.Conversation)
  deriving DecidableEq, Repr

/-- The kinds of diagrams. -/
inductive Kind
  /-- A flow chart. -/
  | flowchart
  /-- A sequence diagram. -/
  | sequence
  deriving DecidableEq, Repr

/-- The name of a kind of diagrams. -/
def Kind.name : Kind → String
  | flowchart => "flowchart"
  | sequence => "sequence"

/-- The kind of a diagram. -/
def Diagram.kind : Diagram → Kind
  | flow _ _ => .flowchart
  | sequence _ => .sequence

/-- Why a source describes no diagram. -/
inductive SourceError
  /-- It has no statement. -/
  | empty
  /-- Its first statement opens no known kind of diagram. -/
  | unrecognized (opening : List Char)
  /-- It is a flow chart without nodes. -/
  | noNodes
  /-- It is a sequence diagram without participants. -/
  | noParticipants
  /-- It is a sequence diagram without messages. -/
  | noMessages
  deriving DecidableEq, Repr

/-- The wording of a reason. -/
def SourceError.message : SourceError → String
  | empty => "diagram source is empty"
  | unrecognized opening =>
    "unrecognized diagram type starting with `" ++ String.ofList opening ++ "`"
  | noNodes => "flowchart contains no nodes"
  | noParticipants => "sequence diagram contains no participants"
  | noMessages => "sequence diagram contains no messages"

/-! ## Headings -/

/-- What the first statement tells about a source. -/
inductive Heading
  /-- It opens a sequence diagram. -/
  | sequence
  /-- It opens a flow chart of a direction. -/
  | flow (direction : Flow.Direction)
  /-- It is a statement like the others, of a flow chart without a heading. -/
  | missing
  deriving DecidableEq, Repr

/-- The opening of a sequence diagram, in small letters. -/
def sequenceOpening : List Char := "sequencediagram".toList

/-- The words that open a flow chart, in small letters. -/
def flowOpenings : List (List Char) :=
  ["flowchart".toList, "graph".toList]

/-- The words that open kinds of diagrams that are not drawn, in small letters. -/
def foreignOpenings : List (List Char) :=
  ["classdiagram".toList, "statediagram".toList, "erdiagram".toList, "gantt".toList,
   "pie".toList, "journey".toList, "gitgraph".toList, "mindmap".toList, "timeline".toList,
   "quadrantchart".toList, "requirementdiagram".toList, "sankey".toList, "xychart".toList,
   "c4context".toList]

/-- Whether a statement opens a kind of diagrams that is not drawn. What follows a hyphen in its
first word does not count. -/
def opensForeign (statement : List Char) : Bool :=
  foreignOpenings.contains ((lowercase (firstWord statement)).takeWhile (· != '-'))

/-- The direction in the heading of a flow chart: its second word. -/
def headingDirection (statement : List Char) : Flow.Direction :=
  match (words statement).drop 1 with
  | word :: _ => .ofWord word
  | [] => .down

/-- What the first of some statements tells about the source. -/
def Heading.ofStatements? (first : List Char) (rest : List (List Char)) : Option Heading :=
  if sequenceOpening.isPrefixOf (lowercase first) then some .sequence
  else if flowOpenings.contains (lowercase (firstWord first)) then
    some (.flow (headingDirection first))
  else if opensForeign first then none
  else if (first :: rest).any fun statement => (Flow.cut? statement).isSome then some .missing
  else none

/-! ## Reading a source -/

/-- A flow chart, if it has a node. -/
def Diagram.ofFlow (direction : Flow.Direction) (statements : List (List Char)) :
    Except SourceError Diagram :=
  let chart := Flow.Chart.ofStatements statements
  if chart.nodes.isEmpty then .error .noNodes else .ok (.flow chart direction)

/-- A sequence diagram, if it has a participant and a message. -/
def Diagram.ofSequence (statements : List (List Char)) : Except SourceError Diagram :=
  let conversation := Sequence.Conversation.ofStatements statements
  if conversation.participants.isEmpty then .error .noParticipants
  else if conversation.messages.isEmpty then .error .noMessages
  else .ok (.sequence conversation)

/-- The number of characters of an unknown opening that are shown. -/
def openingLimit : Nat := 32

/-- The diagram that a list of statements describes. -/
def Diagram.ofStatements : List (List Char) → Except SourceError Diagram
  | [] => .error .empty
  | first :: rest =>
    match Heading.ofStatements? first rest with
    | none => .error (.unrecognized (shorten openingLimit first))
    | some .sequence => ofSequence rest
    | some (.flow direction) => ofFlow direction rest
    | some .missing => ofFlow .down (first :: rest)

/-- The diagram that a source describes. -/
def Diagram.ofSource (source : List Char) : Except SourceError Diagram :=
  ofStatements (statements source)

end TextDiagram
