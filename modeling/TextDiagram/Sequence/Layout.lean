import TextDiagram.Figure.Arrow
import TextDiagram.Figure.Box
import TextDiagram.Sequence.Conversation
import TextDiagram.Text.Fit

/-!
# The layout of a sequence diagram

Every participant of a conversation has a column, with a box at its head and a lifeline below it,
and every message a row, with an arrow between two lifelines and its text above the arrow. A message
to its sender comes in from the right.
-/

namespace TextDiagram.Sequence

open Coordinate

/-! ## Measures -/

/-- The width of a column. -/
def columnWidth : Nat := 170

/-- The width of the box of a participant. -/
def headWidth : Nat := 120

/-- The height of the box of a participant. -/
def headHeight : Nat := 34

/-- The distance between the columns and the edges of the picture. -/
def padding : Nat := 20

/-- The distance between the boxes and the first row. -/
def headGap : Nat := 24

/-- The height of a row. -/
def rowHeight : Nat := 36

/-- The distance between the last row and the lower edge of the picture. -/
def bottomMargin : Nat := 28

/-- The length of the arrow of a message to its sender. -/
def returnWidth : Nat := 40

/-- The distance of the text of a message above its arrow. -/
def textOffset : Nat := 9

/-- The number of characters of the name of a participant that are shown. -/
def labelLimit : Nat := 18

/-! ## Columns and rows -/

/-- A participant with its box and its lifeline on the plane. -/
structure PlacedParticipant (α : Type) where
  /-- The id of the participant. -/
  id : List Char
  /-- The box at the head of the column. -/
  head : Placed (Box α) α
  /-- The lifeline below the box. -/
  lifeline : Placed (Lifeline α) α

/-- A message with its arrow and its text on the plane. -/
structure PlacedMessage (α : Type) where
  /-- The height of the row. -/
  y : α
  /-- The arrow. -/
  arrow : Arrow α
  /-- The text above the arrow, if there is one. -/
  label : Option (Placed Label α)

/-- The layout of a sequence diagram. -/
structure Layout (α : Type) where
  /-- The participants, in order. -/
  participants : List (PlacedParticipant α)
  /-- The messages, in order. -/
  messages : List (PlacedMessage α)
  /-- The extent of the whole picture. -/
  extent : Extent α

/-- A message names somebody who is no participant. -/
structure LayoutError where
  /-- The id that names no participant. -/
  id : List Char
  deriving DecidableEq, Repr

variable {α : Type} [Coordinate α]

/-- The middle of a column. -/
def columnCenter (i : Nat) : α :=
  whole padding + whole i * whole columnWidth + half (whole columnWidth)

/-- The lower side of the boxes, where the lifelines begin. -/
def lifelineTop : α :=
  whole padding + whole headHeight

/-- The middle of a row. -/
def rowCenter (row : Nat) : α :=
  whole padding + whole headHeight + whole headGap + whole row * whole rowHeight +
    half (whole rowHeight)

namespace Conversation

/-- The extent of a picture with the columns and rows of a conversation. -/
def extent (c : Conversation) : Extent α where
  width := whole c.participants.length * whole columnWidth + whole padding * whole 2
  height := whole padding + whole headHeight + whole headGap +
    whole c.messages.length * whole rowHeight + whole bottomMargin

end Conversation

/-- The box of a participant. -/
def Participant.head (p : Participant) : Box α where
  extent := ⟨whole headWidth, whole headHeight⟩
  style := "pn-mermaid-participant".toList
  cornerRadius := whole 0
  label := some (.single (Text.shorten labelLimit p.label) "pn-mermaid-label".toList)

/-- A participant in its column. The lifeline reaches down to `bottom`. -/
def Participant.place (p : Participant) (bottom : α) (i : Nat) : PlacedParticipant α where
  id := p.id
  head := ⟨p.head, columnCenter i, whole padding + half (whole headHeight)⟩
  lifeline := ⟨⟨bottom - lifelineTop⟩, columnCenter i, half (lifelineTop + bottom)⟩

/-- The text of a message above its arrow, unless it is empty. -/
def Message.placedLabel (m : Message) (a : Arrow α) (y : α) : Option (Placed Label α) :=
  if m.text.isEmpty then none
  else some ⟨.single m.text "pn-mermaid-message-label".toList,
    { a.start.midpoint a.finish with y := y - whole textOffset }⟩

/-- The arrow of a message in a row, between the middles of two columns. -/
def Message.placedArrow (m : Message) (sender receiver y : α) : Arrow α :=
  if m.isToSelf then
    ⟨⟨sender + whole returnWidth, y⟩, ⟨sender, y⟩, "pn-mermaid-message".toList⟩
  else ⟨⟨sender, y⟩, ⟨receiver, y⟩, "pn-mermaid-message".toList⟩

/-! ## Layout -/

namespace Conversation

/-- The middle of the column of a participant. -/
def column? (c : Conversation) (id : List Char) : Except LayoutError α :=
  match c.index? id with
  | none => .error ⟨id⟩
  | some i => .ok (columnCenter i)

/-- A message in its row. -/
def placeMessage (c : Conversation) (m : Message) (row : Nat) :
    Except LayoutError (PlacedMessage α) := do
  let y := rowCenter row
  let sender ← c.column? m.sender
  let receiver ← c.column? m.receiver
  let arrow := m.placedArrow sender receiver y
  return ⟨y, arrow, m.placedLabel arrow y⟩

/-- The participants in their columns. -/
def placedParticipants (c : Conversation) : List (PlacedParticipant α) :=
  c.participants.zipIdx.map fun (p, i) => p.place c.extent.height i

/-- The layout of a conversation. -/
def layout (c : Conversation) : Except LayoutError (Layout α) := do
  let messages ← c.messages.zipIdx.mapM fun (m, row) => c.placeMessage m row
  return ⟨c.placedParticipants, messages, c.extent⟩

end Conversation

/-- The wording of a fault in a layout. -/
def LayoutError.message (e : LayoutError) : String :=
  "message refers to unknown participant `" ++ String.ofList e.id ++ "`"

/-- A participant: its box, then its lifeline. -/
def PlacedParticipant.sketch (p : PlacedParticipant α) : Svg.Sketch α :=
  p.head.sketch ++ p.lifeline.sketch

/-- A message: its arrow, then its text. -/
def PlacedMessage.sketch (m : PlacedMessage α) : Svg.Sketch α :=
  match m.label with
  | none => m.arrow.sketch
  | some label => m.arrow.sketch ++ label.sketch

/-- The participants, then the messages. -/
def Layout.sketch (l : Layout α) : Svg.Sketch α :=
  .join (l.participants.map PlacedParticipant.sketch ++ l.messages.map PlacedMessage.sketch)

end TextDiagram.Sequence
