import TextDiagram.Proofs.Figure.Outline
import TextDiagram.Proofs.Sequence.Census

/-!
# What a sequence diagram shows of its names and texts

Two conversations have the same form if they differ in ids, names and texts only, and not in what is
empty (`Conversation.SameForm`). Main statements: closed conversations of the same form are laid
out with the same outlines (`Conversation.SameForm.collect_outline`), and the spans of a
conversation hold its names and then its texts (`Conversation.texts_sketch`).
-/

namespace TextDiagram.Sequence

open Coordinate Svg Text

variable {α : Type} [Coordinate α] (number : α → List Char)

/-! ## Participants -/

namespace Participant

/-- The name of a participant as it is shown. -/
def shownName (p : Participant) : List Char := shorten labelLimit p.label

/-- The label in the box of a participant. -/
def caption (p : Participant) : Label := .single p.shownName "pn-mermaid-label".toList

theorem collect_outline_place {p other : Participant}
    (hname : p.shownName.isEmpty = other.shownName.isEmpty) (bottom : α) (i : Nat) (layer : Layer) :
    (p.place bottom i).sketch.collect (Svg.Node.outline number) layer =
      (other.place bottom i).sketch.collect (Svg.Node.outline number) layer := by
  have hstyle : p.caption.style = other.caption.style := rfl
  have hlines : p.caption.lines.length = other.caption.lines.length := rfl
  have hblank : p.caption.isBlank = other.caption.isBlank := by
    unfold caption
    rw [Label.isBlank_single, Label.isBlank_single, hname]
  have hhead : ∀ q : Point α, (p.head.draw q).collect (Svg.Node.outline number) layer =
      (other.head.draw q).collect (Svg.Node.outline number) layer := by
    intro q
    rw [Box.collect_draw, Box.collect_draw]
    exact congrArg _ (Label.collect_outline_congr number layer hstyle hlines hblank q)
  rw [PlacedParticipant.sketch, PlacedParticipant.sketch, Sketch.collect_append,
    Sketch.collect_append]
  exact congrArg₂ _ (hhead _) rfl

theorem texts_place (p : Participant) (bottom : α) (i : Nat) (layer : Layer) :
    (p.place bottom i).sketch.texts number layer =
      if .text = layer then ([p.shownName].filter fun line => !line.isEmpty).map Label.spanContent
      else [] := by
  have hhead : ∀ q : Point α, (p.head.draw q).texts number layer =
      (p.caption.draw q).texts number layer := fun q => Box.texts_draw number layer _ q
  rw [PlacedParticipant.sketch, Sketch.texts_append]
  show (p.head.draw _).texts number layer ++ (Lifeline.draw ⟨bottom - lifelineTop⟩ _).texts number
    layer = _
  rw [Lifeline.texts_draw, List.append_nil, hhead, Label.texts_draw, caption, Label.isBlank_single]
  cases p.shownName with
  | nil => simp
  | cons c name => simp [Label.single]

end Participant

/-! ## Messages -/

namespace Message

def caption (m : Message) : Label := .single m.text "pn-mermaid-message-label".toList

theorem sketch_of_isEmpty {m : Message} {b : PlacedMessage α} {y : α} (h : m.text.isEmpty = true)
    (hlabel : b.label = m.placedLabel b.arrow y) : b.sketch = b.arrow.sketch := by
  rw [PlacedMessage.sketch, hlabel, placedLabel, if_pos h]

theorem sketch_of_not_isEmpty {m : Message} {b : PlacedMessage α} {y : α}
    (h : m.text.isEmpty = false) (hlabel : b.label = m.placedLabel b.arrow y) :
    b.sketch = b.arrow.sketch ++
      m.caption.draw { b.arrow.start.midpoint b.arrow.finish with y := y - whole textOffset } := by
  rw [PlacedMessage.sketch, hlabel, placedLabel, if_neg (by simp [h])]
  rfl

theorem collect_outline {m other : Message} {b b' : PlacedMessage α} {y : α}
    (hempty : m.text.isEmpty = other.text.isEmpty) (harrow : b.arrow = b'.arrow)
    (hlabel : b.label = m.placedLabel b.arrow y) (hlabel' : b'.label = other.placedLabel b'.arrow y)
    (layer : Layer) : b.sketch.collect (Svg.Node.outline number) layer =
      b'.sketch.collect (Svg.Node.outline number) layer := by
  cases h : m.text.isEmpty with
  | true => rw [sketch_of_isEmpty h hlabel, sketch_of_isEmpty (hempty ▸ h) hlabel', harrow]
  | false =>
    have hstyle : m.caption.style = other.caption.style := rfl
    have hlines : m.caption.lines.length = other.caption.lines.length := rfl
    have hblank : m.caption.isBlank = other.caption.isBlank := by
      unfold caption
      rw [Label.isBlank_single, Label.isBlank_single, hempty]
    rw [sketch_of_not_isEmpty h hlabel, sketch_of_not_isEmpty (hempty ▸ h) hlabel',
      Sketch.collect_append, Sketch.collect_append, harrow,
      Label.collect_outline_congr number layer hstyle hlines hblank]

theorem texts_sketch {m : Message} {b : PlacedMessage α} {y : α}
    (hlabel : b.label = m.placedLabel b.arrow y) (layer : Layer) : b.sketch.texts number layer =
      if .text = layer then ([m.text].filter fun line => !line.isEmpty).map Label.spanContent
      else [] := by
  cases h : m.text.isEmpty with
  | true => simp [sketch_of_isEmpty h hlabel, Arrow.texts_sketch, h]
  | false =>
    rw [sketch_of_not_isEmpty h hlabel, Sketch.texts_append, Arrow.texts_sketch, List.nil_append,
      Label.texts_draw, caption, Label.isBlank_single, h]
    simp [Label.single, h]

end Message

/-! ## Conversations -/

namespace Conversation

/-- The ends of the messages among the participants. -/
def ends (c : Conversation) : List (Option Nat × Option Nat) :=
  c.messages.map fun m => (c.index? m.sender, c.index? m.receiver)

/-- Two conversations have names and texts that are empty at the same places, and messages between
the same participants, message by message. -/
structure SameForm (c other : Conversation) : Prop where
  names : c.participants.map (fun p => p.shownName.isEmpty) =
    other.participants.map fun p => p.shownName.isEmpty
  texts : c.messages.map (fun m => m.text.isEmpty) = other.messages.map fun m => m.text.isEmpty
  ends : c.ends = other.ends

/-- The lines that a conversation shows: its names, then its texts, unless they are empty. -/
def shownLines (c : Conversation) : List (List Char) :=
  (c.participants.map Participant.shownName ++ c.messages.map Message.text).filter
    fun line => !line.isEmpty

variable {c other : Conversation} {l l' : Layout α}

theorem SameForm.length_participants (h : c.SameForm other) :
    c.participants.length = other.participants.length := by
  simpa using congrArg List.length h.names

theorem SameForm.length_messages (h : c.SameForm other) :
    c.messages.length = other.messages.length := by
  simpa using congrArg List.length h.texts

theorem SameForm.extent_eq (h : c.SameForm other) : (c.extent : Extent α) = other.extent := by
  rw [extent, extent, h.length_participants, h.length_messages]

theorem IsClosed.isToSelf_eq (h : c.IsClosed) {m : Message} (hm : m ∈ c.messages) :
    m.isToSelf = decide (c.index? m.sender = c.index? m.receiver) := by
  obtain ⟨hsender, hreceiver⟩ := h.ends m hm
  have hiff : c.index? m.sender = c.index? m.receiver ↔ m.sender = m.receiver :=
    findIdx?_key_eq_iff h.nodup hsender hreceiver
  rw [Bool.eq_iff_iff, decide_eq_true_iff, hiff]
  simp [Message.isToSelf]

theorem IsClosed.index?_eq_some (h : c.IsClosed) {i : Nat} (hi : i < c.participants.length) :
    c.index? c.participants[i].id = some i :=
  findIdx?_key h.nodup hi

/-- In closed conversations of the same form, messages in the same row have the same arrow. -/
theorem SameForm.arrow_eq (h : c.SameForm other) (hc : c.IsClosed) (hother : other.IsClosed)
    {row : Nat} (hrow : row < c.messages.length) (hrow' : row < other.messages.length)
    {b b' : PlacedMessage α} (hb : c.placeMessage c.messages[row] row = .ok b)
    (hb' : other.placeMessage other.messages[row] row = .ok b') : b.arrow = b'.arrow := by
  obtain ⟨i, j, hi, hj, hsender, hreceiver, hplace⟩ :=
    hc.placeMessage_eq_ok (α := α) (List.getElem_mem hrow)
  obtain ⟨i', j', hi', hj', hsender', hreceiver', hplace'⟩ :=
    hother.placeMessage_eq_ok (α := α) (List.getElem_mem hrow')
  have hends : (c.index? c.messages[row].sender, c.index? c.messages[row].receiver) =
      (other.index? other.messages[row].sender, other.index? other.messages[row].receiver) := by
    have hmap := List.getElem_of_eq h.ends (by simpa [Conversation.ends] using hrow)
    simpa only [Conversation.ends, List.getElem_map] using hmap
  -- whether a message returns to its sender shows in its ends
  have hself : c.messages[row].isToSelf = other.messages[row].isToSelf := by
    rw [hc.isToSelf_eq (List.getElem_mem hrow), hother.isToSelf_eq (List.getElem_mem hrow'),
      (Prod.mk.inj hends).1, (Prod.mk.inj hends).2]
  rw [← hsender, ← hreceiver, ← hsender', ← hreceiver', hc.index?_eq_some hi,
    hc.index?_eq_some hj, hother.index?_eq_some hi', hother.index?_eq_some hj'] at hends
  obtain ⟨hsame, hsame'⟩ := Prod.mk.inj hends
  rw [← Except.ok.inj ((hplace row).symm.trans hb), ← Except.ok.inj ((hplace' row).symm.trans hb'),
    Option.some.inj hsame, Option.some.inj hsame']
  unfold Message.placedArrow
  rw [hself]

/-- Closed conversations of the same form have the same outlines on each layer. -/
theorem SameForm.collect_outline (h : c.SameForm other) (hc : c.IsClosed) (hother : other.IsClosed)
    (hl : c.layout = .ok l) (hl' : other.layout = .ok l') (layer : Layer) :
    l.sketch.collect (Svg.Node.outline number) layer =
      l'.sketch.collect (Svg.Node.outline number) layer := by
  obtain ⟨⟨hlength, hplaced⟩, hparticipants, -⟩ := layout_eq_ok_iff.mp hl
  obtain ⟨⟨hlength', hplaced'⟩, hparticipants', -⟩ := layout_eq_ok_iff.mp hl'
  have hheads : (l.participants.map fun p => p.sketch.collect (Svg.Node.outline number) layer) =
      l'.participants.map fun p => p.sketch.collect (Svg.Node.outline number) layer := by
    rw [hparticipants, hparticipants']
    refine List.ext_getElem (by simpa using h.length_participants) fun i hi hi' => ?_
    have hlt : i < c.participants.length := by simpa using hi
    have hlt' : i < other.participants.length := by simpa using hi'
    have hname : c.participants[i].shownName.isEmpty = other.participants[i].shownName.isEmpty := by
      have hmap := List.getElem_of_eq h.names (by simpa using hlt)
      rwa [List.getElem_map, List.getElem_map] at hmap
    rw [List.getElem_map, List.getElem_map, getElem_placedParticipants c hlt,
      getElem_placedParticipants other hlt', h.extent_eq]
    exact Participant.collect_outline_place number hname _ i layer
  have hrows : (l.messages.map fun b => b.sketch.collect (Svg.Node.outline number) layer) =
      l'.messages.map fun b => b.sketch.collect (Svg.Node.outline number) layer := by
    refine List.ext_getElem ?_ fun row hrow hrow' => ?_
    · rw [List.length_map, List.length_map, hlength, hlength', h.length_messages]
    have hlt : row < c.messages.length := by simpa [hlength] using hrow
    have hlt' : row < other.messages.length := by simpa [hlength'] using hrow'
    have hb := hplaced row hlt (hlength ▸ hlt)
    have hb' := hplaced' row hlt' (hlength' ▸ hlt')
    have htext : c.messages[row].text.isEmpty = other.messages[row].text.isEmpty := by
      have hmap := List.getElem_of_eq h.texts (by simpa using hlt)
      rwa [List.getElem_map, List.getElem_map] at hmap
    obtain ⟨_, _, -, hlabel⟩ := exists_of_placeMessage hb
    obtain ⟨_, _, -, hlabel'⟩ := exists_of_placeMessage hb'
    rw [List.getElem_map, List.getElem_map]
    exact Message.collect_outline number htext (h.arrow_eq hc hother hlt hlt' hb hb') hlabel hlabel'
      layer
  rw [Layout.collect_sketch, Layout.collect_sketch, List.flatMap_def, List.flatMap_def,
    List.flatMap_def, List.flatMap_def, hheads, hrows]

theorem texts_sketch (hl : c.layout = .ok l) (layer : Layer) : l.sketch.texts number layer =
    if .text = layer then c.shownLines.map Label.spanContent else [] := by
  have hmessages : ∀ m row b, c.placeMessage m row = .ok b → b.sketch.texts number layer =
      if .text = layer then ([m.text].filter fun line => !line.isEmpty).map Label.spanContent
      else [] := by
    intro m row b hb
    obtain ⟨_, _, -, hlabel⟩ := exists_of_placeMessage hb
    exact Message.texts_sketch number hlabel layer
  rw [Layout.sketch, Sketch.texts_join, List.flatMap_append, List.flatMap_map, List.flatMap_map,
    flatMap_participants hl fun p i => p.texts_place number _ i layer,
    flatMap_messages hl hmessages]
  split
  · rw [shownLines, List.filter_append, List.map_append, filter_map_eq_flatMap,
      filter_map_eq_flatMap, List.map_flatMap, List.map_flatMap]
  · rw [flatMap_nil_const, flatMap_nil_const, List.append_nil]

end Conversation

end TextDiagram.Sequence
