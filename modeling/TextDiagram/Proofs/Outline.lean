import TextDiagram.Proofs.Census
import TextDiagram.Proofs.Flow.Outline
import TextDiagram.Proofs.Sequence.Outline

/-!
# Labels are shown as text only

Two diagrams of the same form (`Diagram.SameForm`) differ in ids and labels only, and not in what is
empty or in the number of lines of a label. Main statement: their pictures have the same markup,
apart from what the spans hold, and the spans hold the shown lines, escaped
(`Diagram.exists_render_outline_eq`).
-/

namespace TextDiagram

open Coordinate Svg Text

/-! ## Documents -/

section Documents

variable {α : Type} [Coordinate α] (number : α → List Char) (extent : Extent α) {s t : Sketch α}

theorem reads_root (hnumber : ∀ x, '=' ∉ number x)
    (h : ∀ layer, ∀ node ∈ s.on layer, Reads (node.print number) (node.separated number)) :
    Reads ((root extent s.groups).print number) ((root extent s.groups).separated number) := by
  have hgroups : ∀ node ∈ s.groups, Reads (node.print number) (node.separated number) := by
    intro node hnode
    obtain ⟨layer, rfl⟩ := Sketch.exists_of_mem_groups hnode
    refine reads_element number (by simp [elementNames]) ?_ (by simp) (h layer)
    simp [attributeNames, tellingNames]
  refine reads_element number (by simp [elementNames]) ?_ (by simp) ?_
  · simp [attributeNames, tellingNames]
  · rw [List.forall_mem_cons]
    exact ⟨reads_print number (Arrow.isPlain_headDefinition number hnumber), hgroups⟩

/-- The outline of a document depends only on the outlines of the nodes on each layer. -/
theorem outline_root_congr (h : ∀ layer, s.collect (Node.outline number) layer =
    t.collect (Node.outline number) layer) :
    (root extent s.groups).outline number = (root extent t.groups).outline number := by
  have hgroup : ∀ layer ∈ Layer.all, (s.group? layer).map (Node.outline number) =
      (t.group? layer).map (Node.outline number) := by
    intro layer _
    have hlayer := h layer
    unfold Sketch.collect at hlayer
    -- a layer holds nodes in both sketches or in neither
    cases hs : s.on layer with
    | nil =>
      rw [hs] at hlayer
      have ht : t.on layer = [] := List.map_eq_nil_iff.mp hlayer.symm
      rw [Sketch.group?_of_on_eq_nil hs, Sketch.group?_of_on_eq_nil ht]
    | cons node nodes =>
      cases ht : t.on layer with
      | nil =>
        rw [hs, ht] at hlayer
        cases hlayer
      | cons other others =>
        rw [hs, ht] at hlayer
        rw [Sketch.group?_of_on_eq_cons hs, Sketch.group?_of_on_eq_cons ht, Option.map_some,
          Option.map_some]
        exact congrArg some (outline_element_congr number (by simp) _ hlayer)
  refine outline_element_congr number (by simp) _ ?_
  have hgroups : ∀ s : Sketch α, s.groups.map (Node.outline number) =
      Layer.all.filterMap fun layer => (s.group? layer).map (Node.outline number) := fun s => by
    rw [Sketch.groups_eq_filterMap, List.map_filterMap]
  rw [List.map_cons, List.map_cons, hgroups, hgroups, List.filterMap_congr hgroup]

theorem contents_root : (root extent s.groups).contents number =
    Layer.all.flatMap fun layer => s.texts number layer := by
  have hhead : (Arrow.headDefinition : Node α).contents number = [] := by
    unfold Arrow.headDefinition
    rw [contents_element number (by simp), List.flatMap_cons, contents_element number (by simp),
      List.flatMap_cons, Node.contents_childless number (by simp)]
    rfl
  unfold root
  rw [contents_element number (by simp), List.flatMap_cons, hhead, List.nil_append,
    Sketch.flatMap_groups]
  refine List.flatMap_congr fun layer _ => ?_
  have htexts : s.texts number layer = (s.on layer).flatMap (Node.contents number) := by
    unfold Sketch.texts Sketch.collect
    rw [List.flatMap_def]
  split
  · next hempty => rw [htexts, hempty, List.flatMap_nil]
  · rw [htexts, Sketch.group, contents_element number (by simp)]

/-! ### Backgrounds -/

variable (color : Color)

theorem texts_backdrop (layer : Layer) : (backdrop color extent).texts number layer = [] := by
  unfold Sketch.texts backdrop
  rw [Sketch.collect_single, Node.contents_childless number (by simp)]
  split <;> rfl

theorem reads_backdrop (layer : Layer) : ∀ node ∈ (backdrop color extent).on layer,
    Reads (node.print number) (node.separated number) := by
  intro node hnode
  unfold backdrop at hnode
  rw [Sketch.on_single] at hnode
  split at hnode
  · rw [List.mem_singleton.mp hnode]
    refine reads_element number (by simp [elementNames]) ?_ (by simp) (by simp)
    simp [attributeNames, tellingNames]
  · cases hnode

end Documents

/-! ## Diagrams -/

namespace Diagram

/-- Two diagrams of the same kind have the same form. Flow charts are also read in the same
direction. -/
inductive SameForm : Diagram → Diagram → Prop
  | flow {c other : Flow.Chart} (h : c.SameForm other) (direction : Flow.Direction) :
    SameForm (.flow c direction) (.flow other direction)
  | sequence {c other : Sequence.Conversation} (h : c.SameForm other) :
    SameForm (.sequence c) (.sequence other)

/-- The lines of text that a diagram shows, in the order of the markup. -/
def shownLines : Diagram → List (List Char)
  | .flow c _ => c.nodes.flatMap fun n => Flow.shownLines n.label
  | .sequence c => c.shownLines

section Layouts

variable {α : Type} [Coordinate α] (number : α → List Char) {d other : Diagram} {l l' : Layout α}

theorem texts_sketch (hl : d.layout = .ok l) (layer : Layer) : l.sketch.texts number layer =
    if .text = layer then d.shownLines.map Label.spanContent else [] := by
  rcases cases_of_layout hl with ⟨c, direction, l, rfl, hlayout, rfl⟩ | ⟨c, l, rfl, hlayout, rfl⟩
  · exact Flow.Chart.texts_sketch number hlayout layer
  · exact Sequence.Conversation.texts_sketch number hlayout layer

theorem isPlain_sketch (hnumber : ∀ x, '=' ∉ number x) (hl : d.layout = .ok l) :
    l.sketch.IsPlain number := by
  rcases cases_of_layout hl with ⟨c, direction, l, rfl, hlayout, rfl⟩ | ⟨c, l, rfl, hlayout, rfl⟩
  · exact Flow.Chart.isPlain_sketch number hnumber hlayout
  · exact Sequence.Conversation.isPlain_sketch number hnumber hlayout

/-- Described diagrams of the same form have the same extent, and the same outlines on each layer. -/
theorem SameForm.extent_eq_and_collect_outline (h : d.SameForm other) (hd : d.IsDescribed)
    (hother : other.IsDescribed) (hl : d.layout = .ok l) (hl' : other.layout = .ok l') :
    l.extent = l'.extent ∧ ∀ layer, l.sketch.collect (Node.outline number) layer =
      l'.sketch.collect (Node.outline number) layer := by
  cases h with
  | flow h direction =>
    obtain ⟨l, hlayout, rfl⟩ := layout_flow_eq_ok_iff.mp hl
    obtain ⟨l', hlayout', rfl⟩ := layout_flow_eq_ok_iff.mp hl'
    obtain ⟨-, -, hextent⟩ := Flow.Chart.layout_eq_ok_iff.mp hlayout
    obtain ⟨-, -, hextent'⟩ := Flow.Chart.layout_eq_ok_iff.mp hlayout'
    refine ⟨?_, h.collect_outline number hd.isClosed_flow hother.isClosed_flow hlayout hlayout'⟩
    show l.extent = l'.extent
    rw [hextent, hextent', h.grid_eq]
  | sequence h =>
    obtain ⟨l, hlayout, rfl⟩ := layout_sequence_eq_ok_iff.mp hl
    obtain ⟨l', hlayout', rfl⟩ := layout_sequence_eq_ok_iff.mp hl'
    obtain ⟨-, -, hextent⟩ := Sequence.Conversation.layout_eq_ok_iff.mp hlayout
    obtain ⟨-, -, hextent'⟩ := Sequence.Conversation.layout_eq_ok_iff.mp hlayout'
    refine ⟨?_, h.collect_outline number hd.isClosed_sequence hother.isClosed_sequence hlayout
      hlayout'⟩
    show l.extent = l'.extent
    rw [hextent, hextent', h.extent_eq]

/-- The markup of a diagram is taken apart as its document is. -/
theorem reads_document (hnumber : ∀ x, '=' ∉ number x) (hl : d.layout = .ok l)
    (background : Option Color) : Reads ((l.document background).print number)
      ((l.document background).separated number) := by
  have hsketch : ∀ layer, ∀ node ∈ l.sketch.on layer,
      Reads (node.print number) (node.separated number) := fun layer node hnode =>
    reads_print number (isPlain_sketch number hnumber hl layer node hnode)
  refine reads_root number l.extent hnumber fun layer node hnode => ?_
  cases background with
  | none => exact hsketch layer node hnode
  | some color =>
    rw [Layout.sketchOn, Sketch.on_append] at hnode
    rcases List.mem_append.mp hnode with hnode | hnode
    · exact hsketch layer node hnode
    · exact reads_backdrop number l.extent color layer node hnode

theorem contents_document (hl : d.layout = .ok l) (background : Option Color) :
    (l.document background).contents number = d.shownLines.map Label.spanContent := by
  have htexts : ∀ layer, (l.sketchOn background).texts number layer =
      if .text = layer then d.shownLines.map Label.spanContent else [] := by
    intro layer
    cases background with
    | none => exact texts_sketch number hl layer
    | some color =>
      rw [Layout.sketchOn, Sketch.texts_append, texts_backdrop, List.append_nil,
        texts_sketch number hl]
  unfold Layout.document
  rw [contents_root]
  simp only [htexts]
  simp [Layer.all]

theorem SameForm.outline_document (h : d.SameForm other) (hd : d.IsDescribed)
    (hother : other.IsDescribed) (hl : d.layout = .ok l) (hl' : other.layout = .ok l')
    (background : Option Color) : (l.document background).outline number =
      (l'.document background).outline number := by
  obtain ⟨hextent, houtline⟩ := h.extent_eq_and_collect_outline number hd hother hl hl'
  unfold Layout.document
  rw [hextent]
  refine outline_root_congr number l'.extent fun layer => ?_
  cases background with
  | none => exact houtline layer
  | some color =>
    rw [Layout.sketchOn, Layout.sketchOn, Sketch.collect_append, Sketch.collect_append,
      houtline layer, hextent]

end Layouts

/-- Two described diagrams of the same form become pictures whose markup is the same, apart from what
the spans hold. In each of them a span holds, between line breaks, a line that the diagram shows,
escaped, with nothing in it that opens or closes markup or quotes. -/
theorem exists_render_outline_eq {d other : Diagram} (h : d.SameForm other) (hd : d.IsDescribed)
    (hother : other.IsDescribed) {config : Config}
    (hconfig : ∀ text fault, ¬ config.IsRefused text fault) :
    ∃ p q, d.render config = .ok p ∧ other.render config = .ok q ∧
      (separate .outside p.markup).outline = (separate .outside q.markup).outline ∧
      (separate .outside p.markup).contents =
        d.shownLines.map (fun line => '\n' :: escape line ++ ['\n']) ∧
      (separate .outside q.markup).contents =
        other.shownLines.map (fun line => '\n' :: escape line ++ ['\n']) ∧
      ∀ line ∈ d.shownLines ++ other.shownLines, ∀ c ∈ ['<', '>', '"', '\''], c ∉ escape line := by
  obtain ⟨background, hbackground⟩ := Config.exists_backgroundColor hconfig
  obtain ⟨l, hl⟩ := hd.exists_layout (α := Float32)
  obtain ⟨l', hl'⟩ := hother.exists_layout (α := Float32)
  have hread := separate_of_reads (reads_document Single.text equals_not_mem_text hl background)
  have hread' := separate_of_reads (reads_document Single.text equals_not_mem_text hl' background)
  refine ⟨.ofLayout background l, .ofLayout background l',
    Diagram.render_eq_ok_iff.mpr ⟨l, background, hl, hbackground, rfl⟩,
    Diagram.render_eq_ok_iff.mpr ⟨l', background, hl', hbackground, rfl⟩, ?_, ?_, ?_, ?_⟩
  · show (separate .outside ((l.document background).print Single.text)).outline =
      (separate .outside ((l'.document background).print Single.text)).outline
    rw [hread, hread']
    exact h.outline_document Single.text hd hother hl hl' background
  · show (separate .outside ((l.document background).print Single.text)).contents = _
    rw [hread]
    exact contents_document Single.text hl background
  · show (separate .outside ((l'.document background).print Single.text)).contents = _
    rw [hread']
    exact contents_document Single.text hl' background
  · intro line _ c hc
    exact not_mem_escape hc line

/-- A chart with a label that imitates the end of a span, and an edge. -/
def spanImitation : Diagram :=
  .flow (.ofMentions [.node ['a'] (some "</tspan><rect/>".toList) .square, .edge ['a'] ['b']]) .down

/-- A chart of the same form with a label that imitates an entity. -/
def entityImitation : Diagram :=
  .flow (.ofMentions [.node ['x'] (some "&lt;".toList) .square, .edge ['x'] ['y']]) .down

theorem exists_render_outline_eq_imitation : spanImitation.SameForm entityImitation ∧
    ∃ p q, spanImitation.render {} = .ok p ∧ entityImitation.render {} = .ok q ∧
      (separate .outside p.markup).outline = (separate .outside q.markup).outline ∧
      (separate .outside p.markup).contents =
        spanImitation.shownLines.map (fun line => '\n' :: escape line ++ ['\n']) ∧
      (separate .outside q.markup).contents =
        entityImitation.shownLines.map (fun line => '\n' :: escape line ++ ['\n']) ∧
      ∀ line ∈ spanImitation.shownLines ++ entityImitation.shownLines,
        ∀ c ∈ ['<', '>', '"', '\''], c ∉ escape line := by
  have hform : spanImitation.SameForm entityImitation :=
    .flow ⟨by decide +kernel, by decide +kernel, by decide +kernel⟩ .down
  have hconfig : ∀ text fault, ¬ ({} : Config).IsRefused text fault := by
    rintro text fault ⟨hbackground, -⟩
    cases hbackground
  exact ⟨hform, exists_render_outline_eq hform (.flow _ _) (.flow _ _) hconfig⟩

end Diagram

end TextDiagram
