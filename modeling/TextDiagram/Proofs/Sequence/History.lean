import Mathlib.Data.List.Induction
import Mathlib.Data.List.Nodup
import Mathlib.Tactic.Common
import TextDiagram.Proofs.Keys
import TextDiagram.Sequence.Conversation

/-!
# The history of a conversation

A conversation is closed if no two participants share an id and its messages go from participant to
participant (`Conversation.IsClosed`). Every event keeps it closed, so that the conversation of
every list of events is (`isClosed_ofEvents`). Its messages are those that were sent
(`messages_ofEvents`), and it has participants as soon as anything happens
(`participants_ofEvents_eq_nil_iff`). The invariant `Conversation.Settled` relates the participants
to the whole history: they are the ids that were named, in the order in which they were named first,
and each is shown by the name that was declared last. Main statement: the conversation of every
history in closed form (`ofEvents_closed_form`).
-/

namespace TextDiagram.Sequence

/-! ## What an event says -/

/-- The message that an event sends. -/
def Event.message? : Event → Option Message
  | .send sender receiver text => some ⟨sender, receiver, text⟩
  | .join _ | .declare _ _ => none

/-- The ids that an event names, in order. -/
def Event.ids : Event → List (List Char)
  | .join id | .declare id _ => [id]
  | .send sender receiver _ => [sender, receiver]

/-- The names to show that an event declares for an id: one, unless it is missing or empty. -/
def Event.given (id : List Char) : Event → List (List Char)
  | .declare other label =>
    if other = id then (label.filter fun label => !label.isEmpty).toList else []
  | .join _ | .send _ _ _ => []

/-- The participant of an id for which some names were declared, in this order: the last one counts,
and without one the id is shown. -/
def Participant.settled (id : List Char) (given : List (List Char)) : Participant :=
  ⟨id, given.getLastD id⟩

namespace Conversation

/-! ## Closed conversations -/

/-- A conversation is closed: no two participants share an id, and the ends of its messages are
participants. -/
structure IsClosed (c : Conversation) : Prop where
  nodup : c.ids.Nodup
  ends : ∀ m ∈ c.messages, m.sender ∈ c.ids ∧ m.receiver ∈ c.ids

/-- Who has appeared is a participant, along with those before. -/
theorem mem_ids_join {c : Conversation} {id other : List Char} :
    other ∈ (c.join id).ids ↔ other ∈ c.ids ∨ other = id := by
  rw [ids_join]
  split
  · next h =>
    have hid : id ∈ c.ids := by simpa using h
    constructor
    · exact Or.inl
    · rintro (h | rfl)
      · exact h
      · exact hid
  · simp

variable {c : Conversation}

theorem IsClosed.join (h : c.IsClosed) (id : List Char) : (c.join id).IsClosed := by
  constructor
  · rw [ids_join]
    split
    · exact h.nodup
    · next hid =>
      have hnot : id ∉ c.ids := by simpa using hid
      refine List.nodup_append.mpr ⟨h.nodup, List.nodup_singleton id, fun a ha b hb hab => ?_⟩
      rw [List.mem_singleton.mp hb] at hab
      exact hnot (hab ▸ ha)
  · intro m hm
    rw [messages_join] at hm
    obtain ⟨hsender, hreceiver⟩ := h.ends m hm
    exact ⟨mem_ids_join.mpr (Or.inl hsender), mem_ids_join.mpr (Or.inl hreceiver)⟩

theorem IsClosed.declare (h : c.IsClosed) (id : List Char) (label : Option (List Char)) :
    (c.declare id label).IsClosed := by
  have hjoin := h.join id
  constructor
  · rw [ids_declare]
    exact hjoin.nodup
  · intro m hm
    rw [ids_declare]
    rw [messages_declare] at hm
    exact hjoin.ends m (by rwa [messages_join])

/-- A message keeps a conversation closed: its ends have appeared before. -/
theorem IsClosed.send (h : c.IsClosed) (sender receiver text : List Char) :
    (c.send sender receiver text).IsClosed := by
  have hjoin := (h.join sender).join receiver
  have hids : (c.send sender receiver text).ids = ((c.join sender).join receiver).ids := rfl
  constructor
  · rw [hids]
    exact hjoin.nodup
  · intro m hm
    rw [hids]
    rw [messages_send] at hm
    rcases List.mem_append.mp hm with hm | hm
    · exact hjoin.ends m (by rwa [messages_join, messages_join])
    · rw [List.mem_singleton.mp hm]
      have hsender : sender ∈ (c.join sender).ids := mem_ids_join.mpr (Or.inr rfl)
      exact ⟨mem_ids_join.mpr (Or.inl hsender), mem_ids_join.mpr (Or.inr rfl)⟩

/-- Every event keeps a conversation closed. -/
theorem IsClosed.next (h : c.IsClosed) (e : Event) : (c.next e).IsClosed := by
  cases e with
  | join id => exact h.join id
  | declare id label => exact h.declare id label
  | send sender receiver text => exact h.send sender receiver text

/-- The conversation of every list of events is closed. -/
theorem isClosed_ofEvents (events : List Event) : (ofEvents events).IsClosed := by
  induction events using List.reverseRecOn with
  | nil => exact ⟨List.nodup_nil, fun m hm => absurd hm List.not_mem_nil⟩
  | append_singleton events e ih =>
    rw [ofEvents, List.foldl_append, List.foldl_cons, List.foldl_nil]
    exact ih.next e

/-- The messages of a conversation are those that were sent, in order. -/
theorem messages_ofEvents (events : List Event) :
    (ofEvents events).messages = events.filterMap Event.message? := by
  induction events using List.reverseRecOn with
  | nil => rfl
  | append_singleton events e ih =>
    rw [ofEvents, List.foldl_append, List.foldl_cons, List.foldl_nil, List.filterMap_append, ← ih]
    cases e with
    | join id => simp [next, Event.message?, ofEvents]
    | declare id label => simp [next, Event.message?, ofEvents]
    | send sender receiver text => simp [next, Event.message?, ofEvents]

theorem ids_join_ne_nil (c : Conversation) (id : List Char) : (c.join id).ids ≠ [] := by
  have hid : id ∈ (c.join id).ids := mem_ids_join.mpr (Or.inr rfl)
  exact List.ne_nil_of_mem hid

/-- Whoever an event names is a participant from then on. -/
theorem ids_next_ne_nil (c : Conversation) (e : Event) : (c.next e).ids ≠ [] := by
  cases e with
  | join id => exact ids_join_ne_nil c id
  | declare id label =>
    show (c.declare id label).ids ≠ []
    rw [ids_declare]
    exact ids_join_ne_nil c id
  | send sender receiver text => exact ids_join_ne_nil (c.join sender) receiver

/-- Only the conversation without events has no participants. -/
theorem participants_ofEvents_eq_nil_iff {events : List Event} :
    (ofEvents events).participants = [] ↔ events = [] := by
  constructor
  · intro h
    rcases List.eq_nil_or_concat events with rfl | ⟨init, e, rfl⟩
    · rfl
    · have hids : ((ofEvents init).next e).ids ≠ [] := ids_next_ne_nil _ e
      rw [ofEvents, List.concat_eq_append, List.foldl_append] at h
      exact absurd (congrArg (List.map Participant.id) h) hids
  · rintro rfl
    rfl

/-! ## Conversations and their histories -/

/-- The invariant of the conversation `c` with respect to the ids that were named and the names that
were declared for each id. -/
structure Settled (named : List (List Char)) (given : List Char → List (List Char))
    (c : Conversation) : Prop where
  ids_eq : c.ids = named.eraseDups
  participant_eq : ∀ p ∈ c.participants, p = Participant.settled p.id (given p.id)
  given_eq_nil : ∀ id, id ∉ named → given id = []

section Settled

variable {named : List (List Char)} {given : List Char → List (List Char)}

/-- Whoever appears is named, and nothing is declared. -/
theorem Settled.join (h : Settled named given c) (id : List Char) :
    Settled (named ++ [id]) given (c.join id) := by
  refine ⟨?_, ?_, fun x hx => h.given_eq_nil x fun hm => hx (List.mem_append_left _ hm)⟩
  · rw [ids_join, h.ids_eq, eraseDups_concat]
  · intro p hp
    unfold Conversation.join at hp
    split at hp
    · exact h.participant_eq p hp
    · next hnew =>
      rcases List.mem_append.mp hp with hp | hp
      · exact h.participant_eq p hp
      · -- a new id: nothing was declared for it before
        have hid : id ∉ named := by
          rw [h.ids_eq] at hnew
          simpa using hnew
        rw [List.mem_singleton.mp hp, Participant.settled, h.given_eq_nil id hid]
        rfl

/-- A name that is declared for an id takes the place of those before it. -/
theorem Settled.rename (h : Settled named given c) {id : List Char} (hid : id ∈ named)
    (label : List Char) :
    Settled named (fun x => given x ++ if id = x then [label] else []) (c.rename id label) := by
  refine ⟨?_, ?_, ?_⟩
  · rw [ids_rename, h.ids_eq]
  · intro p hp
    obtain ⟨q, hq, rfl⟩ := List.mem_map.mp hp
    by_cases hqid : q.id = id
    · rw [if_pos hqid]
      simp [Participant.settled, hqid]
    · rw [if_neg hqid, if_neg (Ne.symm hqid), List.append_nil]
      exact h.participant_eq q hq
  · intro x hx
    have hne : id ≠ x := fun e => hx (e ▸ hid)
    rw [h.given_eq_nil x hx, if_neg hne, List.append_nil]

/-- A declaration names its id, and declares the name that it gives. -/
theorem Settled.declare (h : Settled named given c) (id : List Char) (label : Option (List Char)) :
    Settled (named ++ [id]) (fun x => given x ++ Event.given x (.declare id label))
      (c.declare id label) := by
  have hjoin := h.join id
  have hid : id ∈ named ++ [id] := List.mem_append_right _ (List.mem_singleton_self id)
  unfold Conversation.declare
  simp only [Event.given]
  cases label.filter fun label => !label.isEmpty with
  | none => simpa using hjoin
  | some text => exact hjoin.rename hid text

/-- A message names its two ends and declares nothing. -/
theorem Settled.send (h : Settled named given c) (sender receiver text : List Char) :
    Settled (named ++ [sender, receiver]) given (c.send sender receiver text) := by
  have hjoin := (h.join sender).join receiver
  rw [List.append_assoc] at hjoin
  exact ⟨hjoin.ids_eq, hjoin.participant_eq, hjoin.given_eq_nil⟩

end Settled

/-- What one more event adds to a history. -/
theorem Settled.next {history : List Event}
    (h : Settled (history.flatMap Event.ids) (fun id => history.flatMap (Event.given id)) c)
    (e : Event) : Settled ((history ++ [e]).flatMap Event.ids)
      (fun id => (history ++ [e]).flatMap (Event.given id)) (c.next e) := by
  simp only [List.flatMap_append, List.flatMap_singleton]
  cases e with
  | join id => simpa [Event.ids, Event.given, Conversation.next] using h.join id
  | declare id label => exact h.declare id label
  | send sender receiver text =>
    simpa [Event.ids, Event.given, Conversation.next] using h.send sender receiver text

/-- The conversation of a history keeps the invariant. -/
theorem settled_ofEvents (history : List Event) :
    Settled (history.flatMap Event.ids) (fun id => history.flatMap (Event.given id))
      (ofEvents history) := by
  induction history using List.reverseRecOn with
  | nil => exact ⟨rfl, fun p hp => absurd hp List.not_mem_nil, fun _ _ => rfl⟩
  | append_singleton history e ih =>
    have := ih.next e
    rwa [ofEvents, List.foldl_append, List.foldl_cons, List.foldl_nil]

/-- Further events leave the participants where they are. -/
theorem ids_ofEvents_append (history more : List Event) :
    (ofEvents history).ids <+: (ofEvents (history ++ more)).ids := by
  rw [(settled_ofEvents history).ids_eq, (settled_ofEvents (history ++ more)).ids_eq,
    List.flatMap_append, List.eraseDups_append]
  exact List.prefix_append _ _

/-- Who takes part is found at a place of the participants. -/
theorem IsClosed.exists_index?_eq_some (h : c.IsClosed) {id : List Char} (hid : id ∈ c.ids) :
    ∃ i p, c.index? id = some i ∧ c.participants[i]? = some p ∧ p.id = id := by
  obtain ⟨i, hi, rfl⟩ := exists_getElem_of_mem_keys hid
  exact ⟨i, c.participants[i], findIdx?_key h.nodup hi, List.getElem?_eq_getElem hi, rfl⟩

/-- The conversation of a history. Its participants are the ids that were named, each once, in the
order in which they were named first; whatever follows leaves them in their places. A participant is
shown by the last name that was declared for the id and is not empty, and by the id if there is none.
The messages are those that were sent, in order, and both ends of each are found among the
participants. -/
theorem ofEvents_closed_form (history : List Event) :
    (ofEvents history).ids = (history.flatMap Event.ids).eraseDups ∧
    (ofEvents history).ids.Nodup ∧
    (∀ more, (ofEvents history).ids <+: (ofEvents (history ++ more)).ids) ∧
    (∀ p ∈ (ofEvents history).participants,
      p.label = (history.flatMap (Event.given p.id)).getLastD p.id) ∧
    (ofEvents history).messages = history.filterMap Event.message? ∧
    ∀ m ∈ (ofEvents history).messages, ∀ id ∈ [m.sender, m.receiver],
      ∃ i p, (ofEvents history).index? id = some i ∧
        (ofEvents history).participants[i]? = some p ∧ p.id = id := by
  have h := settled_ofEvents history
  have hclosed := isClosed_ofEvents history
  refine ⟨h.ids_eq, hclosed.nodup, ids_ofEvents_append history, fun p hp => ?_,
    messages_ofEvents history, fun m hm id hid => ?_⟩
  · exact congrArg Participant.label (h.participant_eq p hp)
  · obtain ⟨hsender, hreceiver⟩ := hclosed.ends m hm
    simp only [List.mem_cons, List.not_mem_nil, or_false] at hid
    rcases hid with rfl | rfl
    · exact hclosed.exists_index?_eq_some hsender
    · exact hclosed.exists_index?_eq_some hreceiver

end Conversation

end TextDiagram.Sequence
