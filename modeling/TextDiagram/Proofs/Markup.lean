import TextDiagram.Proofs.Color.Notation
import TextDiagram.Proofs.Figure.Xml
import TextDiagram.Proofs.Outline
import TextDiagram.Proofs.Text.Origin
import TextDiagram.Proofs.WellFormed

/-!
# Pictures as XML

The markup of a picture is properly nested, and its texts and values are escaped, whatever the source
holds. But XML permits only some characters, and a label is shown with all characters that it has
(`IsXmlUnlessShown`). Main statement: the markup of a picture is an element of XML unless a line that
the diagram shows holds a character that is not permitted, and such a character stands in the source
(`isXmlUnlessShown_of_render`).
-/

namespace TextDiagram

open Coordinate Svg Text

/-! ## Sketches -/

section Sketches

variable {α : Type} [Coordinate α] {number : α → List Char} {P : Char → Prop}
  (hnumber : ∀ x, (number x).all isXmlChar = true)

include hnumber

theorem Flow.Chart.isXml_sketch {c : Flow.Chart} {direction : Flow.Direction} {l : Flow.Layout α}
    (hl : c.layout direction = .ok l)
    (h : ∀ n ∈ c.nodes, ∀ line ∈ Flow.shownLines n.label, ∀ x ∈ line, P x) :
    l.sketch.All (Svg.Node.IsXml number P) := by
  refine all_sketch hl (fun n hn p => ?_) fun a ha => Arrow.isXml_sketch hnumber ?_
  · refine Box.isXml_draw hnumber (all_isXmlChar_style (by simp [styles])) (fun label hlabel => ?_) p
    rw [← Option.some.inj hlabel]
    exact ⟨all_isXmlChar_style (by simp [styles]), h n hn⟩
  · rw [ha]
    exact all_isXmlChar_style (by simp [styles])

theorem Sequence.Conversation.isXml_sketch {c : Sequence.Conversation} {l : Sequence.Layout α}
    (hl : c.layout = .ok l) (h : ∀ line ∈ c.shownLines, ∀ x ∈ line, P x) :
    l.sketch.All (Svg.Node.IsXml number P) := by
  have hstyle : ∀ style ∈ styles, style.toList.all isXmlChar = true := fun _ => all_isXmlChar_style
  -- a line that is empty is not shown, and holds no character
  have hline : ∀ line, line ∈ c.participants.map Participant.shownName ++ c.messages.map Message.text →
      ∀ x ∈ line, P x := by
    intro line hline x hx
    exact h line (List.mem_filter.mpr ⟨hline, by simpa using List.ne_nil_of_mem hx⟩) x hx
  refine all_sketch hl (fun p hp q => ?_) (fun line q => Lifeline.isXml_draw hnumber line q)
    (fun a ha => Arrow.isXml_sketch hnumber ?_) fun m hm _ q => ?_
  · refine Box.isXml_draw hnumber (hstyle _ (by simp [styles])) (fun label hlabel => ?_) q
    rw [← Option.some.inj hlabel]
    refine ⟨hstyle _ (by simp [styles]), List.forall_mem_singleton.mpr ?_⟩
    exact hline p.shownName (List.mem_append_left _ (List.mem_map_of_mem hp))
  · rw [ha]
    exact hstyle _ (by simp [styles])
  · refine Label.isXml_draw hnumber (hstyle _ (by simp [styles])) ?_ q
    refine List.forall_mem_singleton.mpr (hline m.text ?_)
    exact List.mem_append_right _ (List.mem_map_of_mem hm)

end Sketches

/-! ## Documents -/

section Documents

variable {α : Type} {number : α → List Char} {P : Char → Prop}

theorem isXml_group (layer : Layer) {nodes : List (Svg.Node α)}
    (h : ∀ node ∈ nodes, node.IsXml number P) : (Sketch.group layer nodes).IsXml number P := by
  have hkey : isXmlName "data-layer" = true := by decide +kernel
  have hname : layer.name.toList.all isXmlChar = true := by cases layer <;> rfl
  refine (Svg.Node.isXml_element_iff number P).mpr ⟨⟨rfl, by simp, ?_⟩, h⟩
  exact List.forall_mem_singleton.mpr ⟨hkey, hname⟩

variable [Coordinate α] (hnumber : ∀ x, (number x).all isXmlChar = true)

include hnumber

theorem isXml_backdrop {color : Color} (h : color.css.all isXmlChar = true) (extent : Extent α) :
    (backdrop color extent).All (Svg.Node.IsXml number P) := by
  refine Sketch.all_single (Svg.Node.isXml_childless number P rfl (by simp) ?_)
  simp only [List.forall_mem_cons, Value.print]
  exact ⟨⟨rfl, rfl⟩, ⟨rfl, h⟩, ⟨rfl, hnumber _⟩, ⟨rfl, hnumber _⟩,
    ⟨rfl, hnumber _⟩, ⟨rfl, hnumber _⟩, List.forall_mem_nil _⟩

theorem isXml_root {s : Sketch α} (h : s.All (Svg.Node.IsXml number P)) (extent : Extent α) :
    (root extent s.groups).IsXml number P := by
  have hxmlns : "http://www.w3.org/2000/svg".toList.all isXmlChar = true := by decide +kernel
  refine (Svg.Node.isXml_element_iff number P).mpr ⟨⟨rfl, by simp, ?_⟩, ?_⟩
  · simp only [List.forall_mem_cons]
    exact ⟨⟨rfl, rfl⟩, ⟨rfl, hnumber _⟩, ⟨rfl, all_isXmlChar_numbers hnumber _⟩, ⟨rfl, hnumber _⟩,
      ⟨rfl, hxmlns⟩, List.forall_mem_nil _⟩
  · rw [List.forall_mem_cons]
    exact ⟨Arrow.isXml_headDefinition hnumber, h.groups fun layer _ => isXml_group layer⟩

end Documents

/-! ## Where shown characters come from -/

theorem Flow.Chart.comesFrom_of_mem_shownLines {statements : List (List Char)} {t : List Char}
    (h : ∀ s ∈ statements, s ⊆ t) {line : List Char}
    (hline : line ∈ (ofStatements statements).nodes.flatMap fun n => Flow.shownLines n.label)
    {x : Char} (hx : x ∈ line) : ComesFrom t x := by
  obtain ⟨n, hn, hline⟩ := List.mem_flatMap.mp hline
  obtain ⟨s, hs, hread⟩ := exists_isReadIn_of_mem_nodes hn
  rcases comesFrom_of_mem_wrap hline hx with hx | hx | ⟨-, hx⟩
  · exact .inl hx
  · exact .inr (.inl hx)
  · exact (comesFrom_of_mem_shorten hx).mono (List.Subset.trans hread.label_isInfix.subset (h s hs))

theorem Sequence.Conversation.comesFrom_of_mem_shownLines {statements : List (List Char)}
    {t : List Char} (h : ∀ s ∈ statements, s ⊆ t) {line : List Char}
    (hline : line ∈ (ofStatements statements).shownLines) {x : Char} (hx : x ∈ line) :
    ComesFrom t x := by
  rcases List.mem_append.mp (List.mem_filter.mp hline).1 with hline | hline
  · obtain ⟨p, hp, rfl⟩ := List.mem_map.mp hline
    obtain ⟨s, hs, hread⟩ := exists_isReadIn_of_mem_participants p hp
    exact (comesFrom_of_mem_shorten hx).mono (List.Subset.trans hread.label_isInfix.subset (h s hs))
  · obtain ⟨m, hm, rfl⟩ := List.mem_map.mp hline
    obtain ⟨s, hs, said, hsaid, htext⟩ := exists_text_eq_shorten hm
    rw [htext] at hx
    exact (comesFrom_of_mem_shorten hx).mono (List.Subset.trans hsaid.subset (h s hs))

/-! ## Diagrams -/

/-- A line that a diagram shows holds a character. -/
def Diagram.Shows (d : Diagram) (x : Char) : Prop :=
  ∃ line ∈ d.shownLines, x ∈ line

namespace Diagram

variable {α : Type} [Coordinate α] {number : α → List Char} {d : Diagram} {l : Layout α}

section Xml

variable (hnumber : ∀ x, (number x).all isXmlChar = true)

include hnumber

theorem isXml_sketch (hl : d.layout = .ok l) :
    l.sketch.All (Svg.Node.IsXml number fun x => isXmlChar x = true ∨ d.Shows x) := by
  rcases cases_of_layout hl with ⟨c, direction, l, rfl, hlayout, rfl⟩ | ⟨c, l, rfl, hlayout, rfl⟩
  · refine Flow.Chart.isXml_sketch hnumber hlayout fun n hn line hline x hx => ?_
    exact .inr ⟨line, List.mem_flatMap.mpr ⟨n, hn, hline⟩, hx⟩
  · exact Sequence.Conversation.isXml_sketch hnumber hlayout fun line hline x hx =>
      .inr ⟨line, hline, hx⟩

/-- A document is an element of permitted characters and of those that are shown. -/
theorem derives_document (hl : d.layout = .ok l) {background : Option Color}
    (hbackground : ∀ color ∈ background, color.css.all isXmlChar = true) :
    Derives (fun x => isXmlChar x = true ∨ d.Shows x) .element
      ((l.document background).print number) := by
  have hsketch := isXml_sketch hnumber hl
  refine derives_print (fun _ => .inl) (isXml_root hnumber ?_ l.extent)
  cases background with
  | none => exact hsketch
  | some color => exact hsketch.append (isXml_backdrop hnumber (hbackground color rfl) l.extent)

end Xml

/-- A character that is shown stands in the markup, unless it is one of the special ones. -/
theorem mem_print_document (hnumber : ∀ x, '=' ∉ number x) (hl : d.layout = .ok l)
    (background : Option Color) {x : Char} (hx : d.Shows x) (hplain : x ∉ ['&', '<', '>', '"', '\'']) :
    x ∈ (l.document background).print number := by
  obtain ⟨line, hline, hx⟩ := hx
  have hread := separate_of_reads (reads_document number hnumber hl background)
  have hheld : Label.spanContent line ∈
      (separate .outside ((l.document background).print number)).contents := by
    rw [hread]
    show _ ∈ (l.document background).contents number
    rw [contents_document number hl background]
    exact List.mem_map_of_mem hline
  have hescape : x ∈ Label.spanContent line := by
    rw [Label.spanContent, List.mem_append, List.mem_cons]
    exact .inl (.inr (mem_escape hx hplain))
  rcases mem_of_mem_contents_separate hheld hescape with hmem | ⟨start, hstart, -⟩
  · exact hmem
  · cases hstart

/-- What a diagram shows comes from its source. -/
theorem comesFrom_of_shows {source : List Char} {d : Diagram} (h : ofSource source = .ok d)
    {x : Char} (hx : d.Shows x) : ComesFrom source x := by
  obtain ⟨line, hline, hx⟩ := hx
  obtain ⟨first, rest, hstatements, hread⟩ := ofSource_eq_ok_iff.mp h
  have hall : ∀ s ∈ first :: rest, s ⊆ source := fun s hs =>
    subset_of_mem_statements (hstatements ▸ hs)
  have hrest : ∀ s ∈ rest, s ⊆ source := fun s hs => hall s (List.mem_cons_of_mem first hs)
  rcases hread with ⟨-, h⟩ | ⟨direction, -, h⟩ | ⟨-, h⟩
  · obtain ⟨-, -, rfl⟩ := ofSequence_eq_ok_iff.mp h
    exact Sequence.Conversation.comesFrom_of_mem_shownLines hrest hline hx
  · obtain ⟨-, rfl⟩ := ofFlow_eq_ok_iff.mp h
    exact Flow.Chart.comesFrom_of_mem_shownLines hrest hline hx
  · obtain ⟨-, rfl⟩ := ofFlow_eq_ok_iff.mp h
    exact Flow.Chart.comesFrom_of_mem_shownLines hall hline hx

end Diagram

/-! ## Pictures -/

theorem Config.all_isXmlChar_css_backgroundColor {config : Config} {background : Option Color}
    (h : config.backgroundColor = .ok background) :
    ∀ color ∈ background, color.css.all isXmlChar = true := by
  intro color hcolor
  unfold backgroundColor at h
  split at h
  · cases h
    cases hcolor
  · split at h
    · next hread =>
      cases h
      cases hcolor
      exact Color.readsXmlColors_ofText.all_isXmlChar_css hread
    · cases h

/-- The markup of a picture is an element of XML as far as its characters are permitted. Those that
are not are the ones that the diagram of the source shows. They stand in the source and are not
blank, so that there are none if the source has none. -/
structure IsXmlUnlessShown (source markup : List Char) : Prop where
  isXmlElement_iff : IsXmlElement markup ↔ ∀ x ∈ markup, isXmlChar x = true
  shown : ∃ d, Diagram.ofSource source = .ok d ∧
    ∀ x, isXmlChar x = false → (x ∈ markup ↔ d.Shows x)
  forbidden : ∀ x ∈ markup, isXmlChar x = false → isBlank x = false ∧ x ∈ source
  permitted : (∀ x ∈ source, isBlank x = false → isXmlChar x = true) →
    (∀ x ∈ markup, isXmlChar x = true) ∧ IsXmlElement markup

/-- The markup of every picture is an element of XML unless the source shows a character that is not
permitted. -/
theorem isXmlUnlessShown_of_render {config : Config} {source : List Char} {p : Picture}
    (h : render config source = .ok p) : IsXmlUnlessShown source p.markup := by
  obtain ⟨d, l, background, hd, hl, hbackground, rfl⟩ := render_eq_ok_iff.mp h
  have hcss := Config.all_isXmlChar_css_backgroundColor hbackground
  have hderives := Diagram.derives_document Single.all_isXmlChar_text hl hcss
  have hmem : ∀ x ∈ (Picture.ofLayout background l).markup, isXmlChar x = true ∨ d.Shows x :=
    hderives.forall_mem fun _ => .inl
  have hshown : ∀ x, isXmlChar x = false →
      (x ∈ (Picture.ofLayout background l).markup ↔ d.Shows x) := by
    intro x hx
    refine ⟨fun h => (hmem x h).resolve_left (by simp [hx]), fun h => ?_⟩
    refine Diagram.mem_print_document equals_not_mem_text hl background h fun hspecial => ?_
    have hpermitted : ['&', '<', '>', '"', '\''].all isXmlChar = true := by decide
    exact absurd (List.all_eq_true.mp hpermitted x hspecial) (by simp [hx])
  have hsource : ∀ x ∈ (Picture.ofLayout background l).markup, isXmlChar x = false →
      isBlank x = false ∧ x ∈ source := by
    intro x hmarkup hx
    rcases Diagram.comesFrom_of_shows hd ((hshown x hx).mp hmarkup) with rfl | rfl | h
    · exact absurd hx (by decide)
    · exact absurd hx (by decide)
    · exact h
  have hiff := isXmlElement_iff hderives
  refine ⟨hiff, ⟨d, hd, hshown⟩, hsource, fun hpermitted => ?_⟩
  have hall : ∀ x ∈ (Picture.ofLayout background l).markup, isXmlChar x = true := by
    intro x hmarkup
    by_contra hx
    obtain ⟨hblank, hmem⟩ := hsource x hmarkup (by simpa using hx)
    exact hx (hpermitted x hmem hblank)
  exact ⟨hall, hiff.mpr hall⟩

end TextDiagram
