import TextDiagram.Proofs.Figure.Plain
import TextDiagram.Proofs.Sequence.Layout
import TextDiagram.Proofs.Text.Fit

/-!
# The figures of a sequence diagram

A sequence diagram shows the lifelines of its participants, above them the arrows of its messages,
then the boxes of the participants, and on top the names that are not blank and the texts that are
not empty. Main statement: the profiles of what lies on each layer, which do not depend on what the
names and texts say (`collect_profile`).
-/

namespace TextDiagram.Sequence

open Coordinate Svg Text

variable {α : Type} [Coordinate α] (number : α → List Char)

/-- A name is drawn unless all of it is blank. -/
theorem isBlank_shortened (label style : List Char) :
    (Label.single (shorten labelLimit label) style).isBlank = label.all isBlank := by
  rw [Label.isBlank_single, Bool.eq_iff_iff, List.isEmpty_iff, shorten_eq_nil_iff]

theorem Layout.collect_sketch {β : Type} (f : Svg.Node α → β) (l : Layout α) (layer : Layer) :
    l.sketch.collect f layer = (l.participants.flatMap fun p => p.sketch.collect f layer) ++
      l.messages.flatMap fun m => m.sketch.collect f layer := by
  rw [Layout.sketch, Sketch.collect_join, List.flatMap_append, List.flatMap_map, List.flatMap_map]

namespace Conversation

variable {c : Conversation} {l : Layout α}

/-- What is read off the participants of a layout is what is read off those of the conversation, if
their place does not matter. -/
theorem flatMap_participants {β : Type} (hl : c.layout = .ok l) {f : PlacedParticipant α → List β}
    {g : Participant → List β} (h : ∀ p i, f (p.place c.extent.height i) = g p) :
    l.participants.flatMap f = c.participants.flatMap g := by
  obtain ⟨-, hparticipants, -⟩ := layout_eq_ok_iff.mp hl
  have hmap : c.placedParticipants.map f = c.participants.map g := by
    refine List.ext_getElem (by simp) fun i _ hi => ?_
    have hlt : i < c.participants.length := by simpa using hi
    rw [List.getElem_map, List.getElem_map, getElem_placedParticipants c hlt, h]
  rw [hparticipants, List.flatMap_def, List.flatMap_def, hmap]

/-- What is read off the messages of a layout is what is read off those of the conversation, if
their place does not matter. -/
theorem flatMap_messages {β : Type} (hl : c.layout = .ok l) {f : PlacedMessage α → List β}
    {g : Message → List β} (h : ∀ m row b, c.placeMessage m row = .ok b → f b = g m) :
    l.messages.flatMap f = c.messages.flatMap g := by
  obtain ⟨⟨hlength, hplaced⟩, -, -⟩ := layout_eq_ok_iff.mp hl
  have hmap : l.messages.map f = c.messages.map g := by
    refine List.ext_getElem (by simp [hlength]) fun row hrow hrow' => ?_
    have hlt : row < c.messages.length := by simpa using hrow'
    have hlt' : row < l.messages.length := by simpa using hrow
    rw [List.getElem_map, List.getElem_map, h _ _ _ (hplaced row hlt hlt')]
  rw [List.flatMap_def, List.flatMap_def, hmap]

theorem exists_of_placeMessage {m : Message} {row : Nat} {b : PlacedMessage α}
    (h : c.placeMessage m row = .ok b) : ∃ sender receiver,
      b.arrow = m.placedArrow sender receiver (rowCenter row) ∧
      b.label = m.placedLabel b.arrow (rowCenter row) := by
  simp only [placeMessage, bind_eq_ok_iff] at h
  obtain ⟨sender, -, receiver, -, hb⟩ := h
  rw [← Except.ok.inj hb]
  exact ⟨sender, receiver, rfl, rfl⟩

end Conversation

/-- The profiles of a participant on a layer. -/
def Participant.profilesOn (p : Participant) : Layer → List Profile
  | .background | .arrow => []
  | .lifeline => [Lifeline.profile]
  | .content => [Box.profile "pn-mermaid-participant".toList]
  | .text => if p.label.all isBlank = false then [Label.profile "pn-mermaid-label".toList 1] else []

/-- The profiles of a message on a layer. -/
def Message.profilesOn (m : Message) : Layer → List Profile
  | .background | .lifeline | .content => []
  | .arrow => [Arrow.profile "pn-mermaid-message".toList]
  | .text => if m.text.isEmpty = false then [Label.profile "pn-mermaid-message-label".toList 1] else []

theorem Participant.collect_profile_place (p : Participant) (bottom : α) (i : Nat) (layer : Layer) :
    (p.place bottom i).sketch.collect (Svg.Node.profile number) layer = p.profilesOn layer := by
  have hblank := isBlank_shortened p.label "pn-mermaid-label".toList
  rw [PlacedParticipant.sketch, Sketch.collect_append]
  show ((p.head : Box α).draw _).collect _ layer ++ (Lifeline.draw ⟨bottom - lifelineTop⟩ _).collect _
    layer = _
  rw [Box.collect_profile, Lifeline.collect_profile]
  show _ ++ (Label.draw (.single (shorten labelLimit p.label) "pn-mermaid-label".toList) _).collect _
    layer ++ _ = _
  rw [Label.collect_profile, hblank]
  cases layer with
  | background => rfl
  | lifeline => rfl
  | arrow => rfl
  | content => rfl
  | text =>
    simp only [reduceCtorEq, ↓reduceIte, true_and, List.nil_append, List.append_nil]
    rfl

theorem Message.style_placedArrow (m : Message) (sender receiver y : α) :
    (m.placedArrow sender receiver y).style = "pn-mermaid-message".toList := by
  unfold placedArrow
  split <;> rfl

theorem Message.collect_profile_of_placeMessage {c : Conversation} {m : Message} {row : Nat}
    {b : PlacedMessage α} (h : c.placeMessage m row = .ok b) (layer : Layer) :
    b.sketch.collect (Svg.Node.profile number) layer = m.profilesOn layer := by
  obtain ⟨sender, receiver, harrow, hlabel⟩ := Conversation.exists_of_placeMessage h
  have hstyle : b.arrow.style = "pn-mermaid-message".toList := by
    rw [harrow, style_placedArrow]
  have hline := Arrow.collect_profile number layer b.arrow
  rw [hstyle] at hline
  unfold PlacedMessage.sketch
  unfold placedLabel at hlabel
  split at hlabel
  · next hempty =>
    rw [hlabel]
    simp only
    rw [hline]
    cases layer with
    | text => simp [profilesOn, hempty]
    | background => rfl
    | lifeline => rfl
    | arrow => rfl
    | content => rfl
  · next hempty =>
    rw [hlabel]
    simp only
    rw [Sketch.collect_append, hline]
    show _ ++ (Label.draw (.single m.text "pn-mermaid-message-label".toList) _).collect _ layer = _
    rw [Label.collect_profile, Label.isBlank_single]
    cases layer with
    | text => simp [profilesOn, hempty, Label.single]
    | background => rfl
    | lifeline => rfl
    | arrow => rfl
    | content => rfl

namespace Conversation

variable {c : Conversation} {l : Layout α}

/-- The profiles of what lies on a layer: those of the participants, then those of the messages. -/
def profilesOn (c : Conversation) (layer : Layer) : List Profile :=
  (c.participants.flatMap fun p => p.profilesOn layer) ++
    c.messages.flatMap fun m => m.profilesOn layer

theorem collect_profile (hl : c.layout = .ok l) (layer : Layer) :
    l.sketch.collect (Svg.Node.profile number) layer = c.profilesOn layer := by
  rw [Layout.collect_sketch,
    flatMap_participants hl fun p i => p.collect_profile_place number _ i layer,
    flatMap_messages hl fun m row b h => m.collect_profile_of_placeMessage number h layer]
  rfl

/-- What holds of the boxes and lifelines of all participants, and of the arrows and captions of all
messages, holds of the whole conversation. -/
theorem all_sketch {Q : Svg.Node α → Prop} (hl : c.layout = .ok l)
    (hhead : ∀ p ∈ c.participants, ∀ q : Point α, (p.head.draw q).All Q)
    (hlifeline : ∀ (line : Lifeline α) (q : Point α), (line.draw q).All Q)
    (harrow : ∀ a : Arrow α, a.style = "pn-mermaid-message".toList → a.sketch.All Q)
    (hcaption : ∀ m ∈ c.messages, m.text.isEmpty = false → ∀ q : Point α,
      ((Label.single m.text "pn-mermaid-message-label".toList).draw q).All Q) :
    l.sketch.All Q := by
  obtain ⟨⟨hlength, hplaced⟩, hparticipants, -⟩ := layout_eq_ok_iff.mp hl
  refine Sketch.all_join fun s hs => ?_
  rcases List.mem_append.mp hs with hs | hs
  · obtain ⟨placed, hp, rfl⟩ := List.mem_map.mp hs
    rw [hparticipants] at hp
    obtain ⟨i, hi, rfl⟩ := List.getElem_of_mem hp
    have hlt : i < c.participants.length := by simpa using hi
    rw [getElem_placedParticipants c hlt]
    exact (hhead _ (List.getElem_mem hlt) _).append (hlifeline _ _)
  · obtain ⟨b, hb, rfl⟩ := List.mem_map.mp hs
    obtain ⟨row, hrow, rfl⟩ := List.getElem_of_mem hb
    have hmessage : row < c.messages.length := hlength ▸ hrow
    obtain ⟨sender, receiver, hplace, hlabel⟩ := exists_of_placeMessage (hplaced row hmessage hrow)
    have hline : l.messages[row].arrow.sketch.All Q :=
      harrow _ (by rw [hplace, Message.style_placedArrow])
    unfold PlacedMessage.sketch
    split
    · exact hline
    · next t ht =>
      rw [ht, Message.placedLabel] at hlabel
      split at hlabel
      · cases hlabel
      · next hempty =>
        rw [Option.some.inj hlabel]
        exact hline.append (hcaption _ (List.getElem_mem hmessage) (by simpa using hempty) _)

/-- All figures of a conversation are plain. -/
theorem isPlain_sketch (hnumber : ∀ x, '=' ∉ number x) (hl : c.layout = .ok l) :
    l.sketch.IsPlain number := by
  have hstyle : ∀ style ∈ styles, '=' ∉ style.toList := fun _ => equals_not_mem_style
  refine all_sketch hl (fun p _ q => ?_) (fun line q => Lifeline.isPlain_draw number hnumber line q)
    (fun a ha => Arrow.isPlain_sketch number hnumber ?_)
    fun m _ _ q => Label.isPlain_draw number hnumber (hstyle _ (by simp [styles])) q
  · refine Box.isPlain_draw number hnumber (hstyle _ (by simp [styles])) (fun t ht => ?_) q
    rw [← Option.some.inj ht]
    exact hstyle _ (by simp [styles])
  · rw [ha]
    exact hstyle _ (by simp [styles])

/-! ## What the figures add up to -/

theorem sum_profilesOn (c : Conversation) (w : Profile → Nat) :
    ((Layer.all.flatMap c.profilesOn).map w).sum =
      c.participants.length * w Lifeline.profile +
        c.messages.length * w (Arrow.profile "pn-mermaid-message".toList) +
        c.participants.length * w (Box.profile "pn-mermaid-participant".toList) +
        c.participants.countP (fun p => p.label.all isBlank = false) *
          w (Label.profile "pn-mermaid-label".toList 1) +
        c.messages.countP (fun m => m.text.isEmpty = false) *
          w (Label.profile "pn-mermaid-message-label".toList 1) := by
  have hnames : ((c.participants.flatMap fun p => p.profilesOn .text).map w).sum =
      c.participants.countP (fun p => p.label.all isBlank = false) *
        w (Label.profile "pn-mermaid-label".toList 1) := by
    simp only [Participant.profilesOn]
    rw [flatMap_ite, flatMap_singleton_const, List.map_replicate, List.sum_replicate_nat,
      List.countP_eq_length_filter]
  have htexts : ((c.messages.flatMap fun m => m.profilesOn .text).map w).sum =
      c.messages.countP (fun m => m.text.isEmpty = false) *
        w (Label.profile "pn-mermaid-message-label".toList 1) := by
    simp only [Message.profilesOn]
    rw [flatMap_ite, flatMap_singleton_const, List.map_replicate, List.sum_replicate_nat,
      List.countP_eq_length_filter]
  have hlayers : Layer.all.flatMap c.profilesOn =
      List.replicate c.participants.length Lifeline.profile ++
        List.replicate c.messages.length (Arrow.profile "pn-mermaid-message".toList) ++
        List.replicate c.participants.length (Box.profile "pn-mermaid-participant".toList) ++
        (c.participants.flatMap fun p => p.profilesOn .text) ++
        c.messages.flatMap fun m => m.profilesOn .text := by
    simp only [Layer.all, profilesOn, List.flatMap_cons, List.flatMap_nil, Participant.profilesOn,
      Message.profilesOn, flatMap_singleton_const, flatMap_nil_const, List.nil_append,
      List.append_nil, List.append_assoc]
  rw [hlayers]
  simp only [List.map_append, List.sum_append, List.map_replicate, List.sum_replicate_nat]
  rw [hnames, htexts]

end Conversation

end TextDiagram.Sequence
