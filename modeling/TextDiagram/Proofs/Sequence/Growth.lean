import Mathlib.Tactic.Common
import TextDiagram.Sequence.Statement

/-!
# A conversation grows

An event only adds to a conversation: participants and messages stay where they are
(`Conversation.IsKeptIn`). So does every run of events. Main statement: the conversation of some
statements is kept in the conversation of these and further statements
(`isKeptIn_ofStatements_append`).
-/

namespace TextDiagram.Sequence.Conversation

/-- What a conversation says is kept in another one: the ids of the participants and the messages of
the other one go on where those of the first end. -/
structure IsKeptIn (c c' : Conversation) : Prop where
  ids : c.ids <+: c'.ids
  messages : c.messages <+: c'.messages

namespace IsKeptIn

variable {c c' c'' : Conversation}

theorem refl (c : Conversation) : c.IsKeptIn c :=
  ⟨List.prefix_refl _, List.prefix_refl _⟩

theorem trans (h : c.IsKeptIn c') (h' : c'.IsKeptIn c'') : c.IsKeptIn c'' :=
  ⟨h.ids.trans h'.ids, h.messages.trans h'.messages⟩

theorem participants_ne_nil (h : c.IsKeptIn c') (hne : c.participants ≠ []) :
    c'.participants ≠ [] := by
  have hids : c'.ids ≠ [] := h.ids.ne_nil (by simpa [Conversation.ids] using hne)
  simpa [Conversation.ids] using hids

theorem messages_ne_nil (h : c.IsKeptIn c') (hne : c.messages ≠ []) : c'.messages ≠ [] :=
  h.messages.ne_nil hne

end IsKeptIn

theorem isKeptIn_join (c : Conversation) (id : List Char) : c.IsKeptIn (c.join id) := by
  refine ⟨?_, ?_⟩
  · rw [ids_join]
    split
    · exact List.prefix_refl _
    · exact List.prefix_append _ _
  · exact messages_join c id ▸ List.prefix_refl _

/-- A declaration may change the label of a participant, but not who takes part. -/
theorem isKeptIn_declare (c : Conversation) (id : List Char) (label : Option (List Char)) :
    c.IsKeptIn (c.declare id label) := by
  refine ⟨?_, ?_⟩
  · rw [ids_declare]
    exact (c.isKeptIn_join id).ids
  · exact messages_declare c id label ▸ List.prefix_refl _

/-- A message comes at the end, after its two ends. -/
theorem isKeptIn_send (c : Conversation) (sender receiver text : List Char) :
    c.IsKeptIn (c.send sender receiver text) := by
  have hends := (c.isKeptIn_join sender).trans (isKeptIn_join _ receiver)
  refine ⟨hends.ids, ?_⟩
  rw [messages_send]
  exact List.prefix_append _ _

/-- One more event keeps what was said. -/
theorem isKeptIn_next (c : Conversation) (e : Event) : c.IsKeptIn (c.next e) := by
  cases e with
  | join id => exact c.isKeptIn_join id
  | declare id label => exact c.isKeptIn_declare id label
  | send sender receiver text => exact c.isKeptIn_send sender receiver text

/-- Any further events keep what was said. -/
theorem isKeptIn_foldl_next (c : Conversation) (events : List Event) :
    c.IsKeptIn (events.foldl next c) := by
  induction events generalizing c with
  | nil => exact IsKeptIn.refl c
  | cons e events ih => exact (c.isKeptIn_next e).trans (ih (c.next e))

/-- Further statements keep what the statements before them say. -/
theorem isKeptIn_ofStatements_append (statements more : List (List Char)) :
    (ofStatements statements).IsKeptIn (ofStatements (statements ++ more)) := by
  unfold ofStatements ofEvents
  rw [List.flatMap_append, List.foldl_append]
  exact isKeptIn_foldl_next _ _

end TextDiagram.Sequence.Conversation
