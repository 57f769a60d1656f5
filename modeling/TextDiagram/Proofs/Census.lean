import TextDiagram.Proofs.Document
import TextDiagram.Proofs.Decimal.Single
import TextDiagram.Proofs.Flow.Census
import TextDiagram.Proofs.Rendering
import TextDiagram.Proofs.Sequence.Census

/-!
# Everything is drawn once

The markup of a picture holds one tag and one class for each part of its diagram, whatever the labels
say: a label is escaped, so nothing in it opens a tag or ends an attribute. Main statement: so it is
for every described diagram (`exists_render_isDrawnIn`).
-/

namespace TextDiagram

open Svg Text

variable {α : Type} [Coordinate α] (number : α → List Char) (hnumber : ∀ x, '=' ∉ number x)
  (extent : Extent α)

/-! ## Flow charts -/

namespace Flow.Chart

/-- The layers on which a flow chart shows something. -/
def Shows (c : Chart) : Layer → Prop
  | .background | .lifeline => False
  | .arrow => ∃ e ∈ c.edges, e.source ≠ e.target
  | .content => c.nodes ≠ []
  | .text => ∃ n ∈ c.nodes, n.label.all isBlank = false

/-- Every part of a flow chart stands in markup once: a box for each node, an arrow with its head for
each edge that does not lead back to its node, and a label for each node whose label is not blank. -/
structure IsDrawnIn (c : Chart) (markup : List Char) : Prop where
  nodes : occurrences "class=\"pn-mermaid-node\"".toList markup = c.nodes.length
  boxes : occurrences "<rect".toList markup = c.nodes.length
  edges : occurrences "class=\"pn-mermaid-edge\"".toList markup =
    c.edges.countP fun e => e.source ≠ e.target
  lines : occurrences "<line".toList markup = c.edges.countP fun e => e.source ≠ e.target
  heads : occurrences "marker-end=\"".toList markup = c.edges.countP fun e => e.source ≠ e.target
  labels : occurrences "<text".toList markup = c.nodes.countP fun n => n.label.all isBlank = false
  marker : occurrences "<marker".toList markup = 1
  layers : HasLayers c.Shows markup

theorem length_drawnEdges (c : Chart) :
    c.drawnEdges.length = c.edges.countP fun e => e.source ≠ e.target := by
  rw [drawnEdges, List.countP_eq_length_filter]
  refine congrArg List.length (List.filter_congr fun e _ => ?_)
  rw [Bool.eq_iff_iff]
  simp [Edge.isLoop]

theorem profilesOn_ne_nil_iff (c : Chart) (layer : Layer) :
    c.profilesOn layer ≠ [] ↔ c.Shows layer := by
  have hdrawn : c.drawnEdges.length ≠ 0 ↔ ∃ e ∈ c.edges, e.source ≠ e.target := by
    rw [length_drawnEdges, ← Nat.pos_iff_ne_zero, List.countP_pos_iff]
    simp
  cases layer with
  | background => simp [profilesOn, Shows]
  | lifeline => simp [profilesOn, Shows]
  | arrow => simpa [profilesOn, Shows] using hdrawn
  | content => simp [profilesOn, Shows]
  | text => simp [profilesOn, Shows]

theorem isFigureProfile_of_mem_profilesOn {c : Chart} {layer : Layer} {profile : Profile}
    (h : profile ∈ c.profilesOn layer) : IsFigureProfile profile := by
  cases layer with
  | background => cases h
  | lifeline => cases h
  | arrow =>
    rw [List.eq_of_mem_replicate h]
    exact .arrow _
  | content =>
    rw [List.eq_of_mem_replicate h]
    exact .box _
  | text =>
    obtain ⟨n, -, rfl⟩ := List.mem_map.mp h
    exact .label ..

variable {c : Chart} {d : Direction} {l : Layout α}

theorem isFigureProfile_of_mem_profiles (hl : c.layout d = .ok l) {profile : Profile}
    (h : profile ∈ l.sketch.profiles number) : IsFigureProfile profile := by
  obtain ⟨layer, -, hmem⟩ := List.mem_flatMap.mp h
  rw [collect_profile number hl layer] at hmem
  exact isFigureProfile_of_mem_profilesOn hmem

include hnumber in
theorem isDrawnIn_root (hl : c.layout d = .ok l) :
    c.IsDrawnIn ((root extent l.sketch.groups).print number) := by
  have hprofiles : l.sketch.profiles number = Layer.all.flatMap c.profilesOn :=
    List.flatMap_congr fun layer _ => collect_profile number hl layer
  have hplain : l.sketch.IsPlain number := isPlain_sketch number hnumber hl
  -- a count in the markup adds up over the figures, and a label counts the same whatever it says
  have htags : ∀ name ∈ elementNames, name ≠ "g" → name ≠ "tspan" →
      occurrences (opening name) ((root extent l.sketch.groups).print number) =
        ["svg", "defs", "marker", "path"].count name +
          (c.drawnEdges.length * ["line"].count name + c.nodes.length * ["rect"].count name +
            c.nodes.countP (fun n => n.label.all isBlank = false) * ["text"].count name) := by
    intro name hname hg htspan
    rw [occurrences_opening_root number extent hnumber hplain hname hg, hprofiles,
      sum_profilesOn c fun _ => Label.count_names_profile htspan]
    rfl
  have hclasses : ∀ style ∈ styles, occurrences (assignment "class" (style.toList ++ ['"']))
      ((root extent l.sketch.groups).print number) =
        c.drawnEdges.length * ["pn-mermaid-edge"].count style +
          c.nodes.length * ["pn-mermaid-node"].count style +
            c.nodes.countP (fun n => n.label.all isBlank = false) *
              ["pn-mermaid-label"].count style := by
    intro style hstyle
    rw [occurrences_class_root number extent hnumber hplain hstyle, hprofiles,
      sum_profilesOn c fun _ => count_style (by simp [styles])]
    congr 2
    · exact congrArg _ (count_style (by simp [styles]))
    · exact congrArg _ (count_style (by simp [styles]))
  have hheads : occurrences (assignment "marker-end" [])
      ((root extent l.sketch.groups).print number) = c.drawnEdges.length := by
    rw [occurrences_markerEnd_root number extent hnumber hplain, hprofiles,
      sum_profilesOn c fun _ => rfl]
    simp [Arrow.profile, Box.profile]
  rw [length_drawnEdges] at htags hclasses hheads
  refine ⟨?_, ?_, ?_, ?_, ?_, ?_, ?_, ?_⟩
  · have hmark : "class=\"pn-mermaid-node\"".toList =
        assignment "class" ("pn-mermaid-node".toList ++ ['"']) := by decide +kernel
    rw [hmark, hclasses _ (by simp [styles])]
    simp
  · have hmark : "<rect".toList = opening "rect" := by decide +kernel
    rw [hmark, htags _ (by simp [elementNames]) (by simp) (by simp)]
    simp
  · have hmark : "class=\"pn-mermaid-edge\"".toList =
        assignment "class" ("pn-mermaid-edge".toList ++ ['"']) := by decide +kernel
    rw [hmark, hclasses _ (by simp [styles])]
    simp
  · have hmark : "<line".toList = opening "line" := by decide +kernel
    rw [hmark, htags _ (by simp [elementNames]) (by simp) (by simp)]
    simp
  · have hmark : "marker-end=\"".toList = assignment "marker-end" [] := by decide +kernel
    rw [hmark, hheads]
  · have hmark : "<text".toList = opening "text" := by decide +kernel
    rw [hmark, htags _ (by simp [elementNames]) (by simp) (by simp)]
    simp
  · have hmark : "<marker".toList = opening "marker" := by decide +kernel
    rw [hmark, htags _ (by simp [elementNames]) (by simp) (by simp)]
    simp
  · refine hasLayers_root number extent hnumber hplain
      (fun profile hprofile => (isFigureProfile_of_mem_profiles number hl hprofile).layers_eq_nil)
      (fun layer => ?_) id
    rw [collect_profile number hl layer, profilesOn_ne_nil_iff]

end Flow.Chart

/-! ## Sequence diagrams -/

namespace Sequence.Conversation

/-- The layers on which a sequence diagram shows something. -/
def Shows (c : Conversation) : Layer → Prop
  | .background => False
  | .lifeline | .content => c.participants ≠ []
  | .arrow => c.messages ≠ []
  | .text => (∃ p ∈ c.participants, p.label.all isBlank = false) ∨
    ∃ m ∈ c.messages, m.text.isEmpty = false

/-- Every part of a sequence diagram stands in markup once: a box and a lifeline for each
participant, an arrow for each message, and a label for each name that is not blank and each text
that is not empty. -/
structure IsDrawnIn (c : Conversation) (markup : List Char) : Prop where
  participants :
    occurrences "class=\"pn-mermaid-participant\"".toList markup = c.participants.length
  lifelines : occurrences "class=\"pn-mermaid-lifeline\"".toList markup = c.participants.length
  messages : occurrences "class=\"pn-mermaid-message\"".toList markup = c.messages.length
  labels : occurrences "<text".toList markup =
    c.participants.countP (fun p => p.label.all isBlank = false) +
      c.messages.countP fun m => m.text.isEmpty = false
  marker : occurrences "<marker".toList markup = 1
  layers : HasLayers c.Shows markup

theorem profilesOn_ne_nil_iff (c : Conversation) (layer : Layer) :
    c.profilesOn layer ≠ [] ↔ c.Shows layer := by
  unfold profilesOn
  cases layer with
  | background => simp [Shows, Participant.profilesOn, Message.profilesOn]
  | lifeline =>
    simp only [Participant.profilesOn, Message.profilesOn, flatMap_singleton_const,
      flatMap_nil_const]
    simp [Shows]
  | arrow =>
    simp only [Participant.profilesOn, Message.profilesOn, flatMap_singleton_const,
      flatMap_nil_const]
    simp [Shows]
  | content =>
    simp only [Participant.profilesOn, Message.profilesOn, flatMap_singleton_const,
      flatMap_nil_const]
    simp [Shows]
  | text =>
    simp only [Participant.profilesOn, Message.profilesOn, flatMap_ite, flatMap_singleton_const]
    rw [Ne, List.append_eq_nil_iff, not_and_or]
    simp [Shows, -String.reduceToList]

theorem isFigureProfile_of_mem_profilesOn {c : Conversation} {layer : Layer} {profile : Profile}
    (h : profile ∈ c.profilesOn layer) : IsFigureProfile profile := by
  have hsome : ∀ {p : Prop} [Decidable p] {q : Profile}, profile ∈ (if p then [q] else []) →
      profile = q := by
    intro p _ q hmem
    split at hmem
    · exact List.mem_singleton.mp hmem
    · cases hmem
  rcases List.mem_append.mp h with h | h
  · obtain ⟨p, -, h⟩ := List.mem_flatMap.mp h
    cases layer with
    | background => cases h
    | arrow => cases h
    | lifeline =>
      rw [List.mem_singleton.mp h]
      exact .lifeline
    | content =>
      rw [List.mem_singleton.mp h]
      exact .box _
    | text =>
      rw [hsome h]
      exact .label ..
  · obtain ⟨m, -, h⟩ := List.mem_flatMap.mp h
    cases layer with
    | background => cases h
    | lifeline => cases h
    | content => cases h
    | arrow =>
      rw [List.mem_singleton.mp h]
      exact .arrow _
    | text =>
      rw [hsome h]
      exact .label ..

variable {c : Conversation} {l : Layout α}

theorem isFigureProfile_of_mem_profiles (hl : c.layout = .ok l) {profile : Profile}
    (h : profile ∈ l.sketch.profiles number) : IsFigureProfile profile := by
  obtain ⟨layer, -, hmem⟩ := List.mem_flatMap.mp h
  rw [collect_profile number hl layer] at hmem
  exact isFigureProfile_of_mem_profilesOn hmem

include hnumber in
theorem isDrawnIn_root (hl : c.layout = .ok l) :
    c.IsDrawnIn ((root extent l.sketch.groups).print number) := by
  have hprofiles : l.sketch.profiles number = Layer.all.flatMap c.profilesOn :=
    List.flatMap_congr fun layer _ => collect_profile number hl layer
  have hplain : l.sketch.IsPlain number := isPlain_sketch number hnumber hl
  have htags : ∀ name ∈ elementNames, name ≠ "g" → name ≠ "tspan" →
      occurrences (opening name) ((root extent l.sketch.groups).print number) =
        ["svg", "defs", "marker", "path"].count name +
          (c.participants.length * ["line"].count name + c.messages.length * ["line"].count name +
            c.participants.length * ["rect"].count name +
            c.participants.countP (fun p => p.label.all isBlank = false) * ["text"].count name +
            c.messages.countP (fun m => m.text.isEmpty = false) * ["text"].count name) := by
    intro name hname hg htspan
    rw [occurrences_opening_root number extent hnumber hplain hname hg, hprofiles,
      sum_profilesOn, Label.count_names_profile htspan, Label.count_names_profile htspan]
    rfl
  have hclasses : ∀ style ∈ styles, occurrences (assignment "class" (style.toList ++ ['"']))
      ((root extent l.sketch.groups).print number) =
        c.participants.length * ["pn-mermaid-lifeline"].count style +
          c.messages.length * ["pn-mermaid-message"].count style +
          c.participants.length * ["pn-mermaid-participant"].count style +
          c.participants.countP (fun p => p.label.all isBlank = false) *
            ["pn-mermaid-label"].count style +
          c.messages.countP (fun m => m.text.isEmpty = false) *
            ["pn-mermaid-message-label"].count style := by
    intro style hstyle
    rw [occurrences_class_root number extent hnumber hplain hstyle, hprofiles, sum_profilesOn]
    have hcount : ∀ other ∈ styles, [escape other.toList].count style.toList = [other].count style :=
      fun other hother => count_style hother
    simp only [Lifeline.profile, Arrow.profile, Box.profile, Label.profile]
    rw [hcount _ (by simp [styles]), hcount _ (by simp [styles]), hcount _ (by simp [styles]),
      hcount _ (by simp [styles]), hcount _ (by simp [styles])]
  refine ⟨?_, ?_, ?_, ?_, ?_, ?_⟩
  · have hmark : "class=\"pn-mermaid-participant\"".toList =
        assignment "class" ("pn-mermaid-participant".toList ++ ['"']) := by decide +kernel
    rw [hmark, hclasses _ (by simp [styles])]
    simp
  · have hmark : "class=\"pn-mermaid-lifeline\"".toList =
        assignment "class" ("pn-mermaid-lifeline".toList ++ ['"']) := by decide +kernel
    rw [hmark, hclasses _ (by simp [styles])]
    simp
  · have hmark : "class=\"pn-mermaid-message\"".toList =
        assignment "class" ("pn-mermaid-message".toList ++ ['"']) := by decide +kernel
    rw [hmark, hclasses _ (by simp [styles])]
    simp
  · have hmark : "<text".toList = opening "text" := by decide +kernel
    rw [hmark, htags _ (by simp [elementNames]) (by simp) (by simp)]
    simp
  · have hmark : "<marker".toList = opening "marker" := by decide +kernel
    rw [hmark, htags _ (by simp [elementNames]) (by simp) (by simp)]
    simp
  · refine hasLayers_root number extent hnumber hplain
      (fun profile hprofile => (isFigureProfile_of_mem_profiles number hl hprofile).layers_eq_nil)
      (fun layer => ?_) id
    rw [collect_profile number hl layer, profilesOn_ne_nil_iff]

end Sequence.Conversation

/-! ## Pictures -/

theorem equals_not_mem_text (x : Float32) : '=' ∉ Single.text x := by
  intro h
  exact absurd (Single.isNumeric_of_mem_text h) (by decide)

/-- Every described diagram becomes a picture without a background, and each of its parts stands in
the markup once. -/
theorem exists_render_isDrawnIn :
    (∀ (history : List Flow.Mention) (direction : Flow.Direction), ∃ p,
      (Diagram.flow (.ofMentions history) direction).render {} = .ok p ∧
        (Flow.Chart.ofMentions history).IsDrawnIn p.markup) ∧
    (∀ events : List Sequence.Event, ∃ p,
      (Diagram.sequence (.ofEvents events)).render {} = .ok p ∧
        (Sequence.Conversation.ofEvents events).IsDrawnIn p.markup) := by
  refine ⟨fun history direction => ?_, fun events => ?_⟩
  · obtain ⟨l, hl⟩ := (Flow.Chart.isClosed_ofMentions history).exists_layout (α := Float32) direction
    refine ⟨.ofLayout none (.flow l), Diagram.render_eq_ok_iff.mpr ?_, ?_⟩
    · exact ⟨.flow l, none, Diagram.layout_flow_eq_ok_iff.mpr ⟨l, hl, rfl⟩, rfl, rfl⟩
    · exact Flow.Chart.isDrawnIn_root Single.text equals_not_mem_text l.extent hl
  · obtain ⟨l, hl⟩ := (Sequence.Conversation.isClosed_ofEvents events).exists_layout (α := Float32)
    refine ⟨.ofLayout none (.sequence l), Diagram.render_eq_ok_iff.mpr ?_, ?_⟩
    · exact ⟨.sequence l, none, Diagram.layout_sequence_eq_ok_iff.mpr ⟨l, hl, rfl⟩, rfl, rfl⟩
    · exact Sequence.Conversation.isDrawnIn_root Single.text equals_not_mem_text l.extent hl

end TextDiagram
