/-!
# Conversations

A sequence diagram shows a conversation: participants, in the order in which they first appear, and
the messages between them in order. Main statements: an event adds at most the participants it
names, at the end (`ids_join`, `ids_declare`), and a message is appended to the messages
(`messages_send`).
-/

namespace TextDiagram.Sequence

/-- A participant of a conversation. -/
structure Participant where
  /-- The name by which messages refer to the participant. -/
  id : List Char
  /-- The name shown above the lifeline. -/
  label : List Char
  deriving DecidableEq, Repr

/-- A message from one participant to another. -/
structure Message where
  /-- The id of the sender. -/
  sender : List Char
  /-- The id of the receiver. -/
  receiver : List Char
  /-- The text shown above the arrow. -/
  text : List Char
  deriving DecidableEq, Repr

/-- Whether a message returns to its sender. -/
def Message.isToSelf (m : Message) : Bool :=
  m.sender == m.receiver

/-- A conversation: its participants in the order of their first appearance, and its messages in
order. -/
structure Conversation where
  /-- The participants. -/
  participants : List Participant
  /-- The messages. -/
  messages : List Message
  deriving DecidableEq, Repr

/-- One step in the description of a conversation. -/
inductive Event
  /-- A participant appears. -/
  | join (id : List Char)
  /-- A participant is declared, perhaps with a name to show. -/
  | declare (id : List Char) (label : Option (List Char))
  /-- A message is sent. -/
  | send (sender receiver text : List Char)
  deriving DecidableEq, Repr

namespace Conversation

/-- The conversation without participants and messages. -/
def empty : Conversation := ⟨[], []⟩

/-- The ids of the participants, in order. -/
def ids (c : Conversation) : List (List Char) :=
  c.participants.map Participant.id

/-- The participant of an id. -/
def find? (c : Conversation) (id : List Char) : Option Participant :=
  c.participants.find? fun p => p.id == id

/-- The position of a participant among the participants. -/
def index? (c : Conversation) (id : List Char) : Option Nat :=
  c.participants.findIdx? fun p => p.id == id

/-- A participant appears; one that is not known yet is added at the end and shown by its id. -/
def join (c : Conversation) (id : List Char) : Conversation :=
  if c.ids.contains id then c else { c with participants := c.participants ++ [⟨id, id⟩] }

/-- Shows a participant by another name. -/
def rename (c : Conversation) (id label : List Char) : Conversation :=
  { c with participants := c.participants.map fun p => if p.id = id then { p with label } else p }

/-- Declares a participant. Each label that is given and not empty replaces the one before. -/
def declare (c : Conversation) (id : List Char) (label : Option (List Char)) : Conversation :=
  match label.filter fun label => !label.isEmpty with
  | none => c.join id
  | some label => (c.join id).rename id label

/-- Adds a message, after its sender and its receiver have appeared. -/
def send (c : Conversation) (sender receiver text : List Char) : Conversation :=
  let c := (c.join sender).join receiver
  { c with messages := c.messages ++ [⟨sender, receiver, text⟩] }

/-- The conversation after one more event. -/
def next (c : Conversation) : Event → Conversation
  | .join id => c.join id
  | .declare id label => c.declare id label
  | .send sender receiver text => c.send sender receiver text

/-- The conversation that a list of events describes. -/
def ofEvents (events : List Event) : Conversation :=
  events.foldl next empty

/-! ## What an event adds -/

/-- A participant that appears is added at the end unless it is known. -/
theorem ids_join (c : Conversation) (id : List Char) :
    (c.join id).ids = if c.ids.contains id then c.ids else c.ids ++ [id] := by
  unfold join
  split
  · rfl
  · simp [ids]

@[simp] theorem ids_rename (c : Conversation) (id label : List Char) :
    (c.rename id label).ids = c.ids := by
  simp only [rename, ids, List.map_map]
  refine List.map_congr_left fun p _ => ?_
  simp only [Function.comp_apply]
  split <;> rfl

/-- A declaration adds the participant as its appearance does. -/
theorem ids_declare (c : Conversation) (id : List Char) (label : Option (List Char)) :
    (c.declare id label).ids = (c.join id).ids := by
  unfold declare
  split <;> simp

@[simp] theorem messages_join (c : Conversation) (id : List Char) :
    (c.join id).messages = c.messages := by
  unfold join
  split <;> rfl

/-- A declaration adds no message. -/
@[simp] theorem messages_declare (c : Conversation) (id : List Char)
    (label : Option (List Char)) : (c.declare id label).messages = c.messages := by
  unfold declare
  split <;> simp [rename]

/-- A message is added at the end. -/
@[simp] theorem messages_send (c : Conversation) (sender receiver text : List Char) :
    (c.send sender receiver text).messages = c.messages ++ [⟨sender, receiver, text⟩] := by
  simp [send]

end Conversation

end TextDiagram.Sequence
