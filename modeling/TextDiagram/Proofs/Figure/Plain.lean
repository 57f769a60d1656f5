import TextDiagram.Figure.Arrow
import TextDiagram.Figure.Box
import TextDiagram.Proofs.Svg.Layers

/-!
# What figures are made of

A figure shows a node on one layer, or two: a box shows its label above itself. The profile of such
a node is the same wherever the figure is drawn and whatever its label says (`collect_profile`).
Figures are plain if their classes hold no equals sign (`isPlain_sketch`, `isPlain_draw`).
-/

namespace TextDiagram

open Coordinate Svg

/-- The classes of figures. -/
def styles : List String :=
  ["pn-mermaid-node", "pn-mermaid-edge", "pn-mermaid-label", "pn-mermaid-participant",
    "pn-mermaid-lifeline", "pn-mermaid-message", "pn-mermaid-message-label"]

theorem equals_not_mem_style {style : String} (h : style ∈ styles) : '=' ∉ style.toList := by
  have hall : styles.all (fun style => !style.toList.contains '=') = true := by decide +kernel
  simpa using List.all_eq_true.mp hall style h

theorem equals_not_mem_strokeColor : '=' ∉ strokeColor := by decide +kernel

variable {α : Type} (number : α → List Char) (layer : Layer)

namespace Arrow

/-- The reference to the head that all arrows share. -/
def headReference : List Char := "url(#".toList ++ headId ++ [')']

theorem equals_not_mem_headId : '=' ∉ headId := by decide +kernel

/-- The profile of an arrow. -/
def profile (style : List Char) : Profile :=
  ⟨["line"], [escape style], [escape headReference], []⟩

theorem collect_profile (a : Arrow α) : a.sketch.collect (Node.profile number) layer =
    if .arrow = layer then [profile a.style] else [] := by
  have hhead : "url(#".toList ++ headId ++ [')'] = headReference := rfl
  rw [sketch, hhead, Sketch.collect_single]
  simp [Node.profile, profile, Value.print, -String.reduceToList]

theorem isPlain_sketch (hnumber : ∀ x, '=' ∉ number x) {a : Arrow α} (hstyle : '=' ∉ a.style) :
    a.sketch.IsPlain number := by
  refine Sketch.isPlain_single number (Node.isPlain_childless number (by simp [elementNames]) (by simp) ?_)
  simp only [List.forall_mem_cons, Value.print]
  simp [attributeNames, tellingNames, hnumber, hstyle, equals_not_mem_headId,
    equals_not_mem_strokeColor]

variable [Coordinate α]

theorem profile_headDefinition :
    (headDefinition : Node α).profile number = ⟨["defs", "marker", "path"], [], [], []⟩ := by
  simp [headDefinition, Node.profile]

theorem isPlain_headDefinition (hnumber : ∀ x, '=' ∉ number x) :
    (headDefinition : Node α).IsPlain number := by
  have hpath : (Node.element "path" [("d", .text "M 0 0 L 10 5 L 0 10 z".toList),
      ("fill", .text strokeColor)] [] : Node α).IsPlain number := by
    refine Node.isPlain_childless number (by simp [elementNames]) (by simp) ?_
    simp only [List.forall_mem_cons, Value.print]
    simp [attributeNames, tellingNames, equals_not_mem_strokeColor]
  refine (Node.isPlain_element_iff number).mpr ⟨⟨⟨by simp [elementNames], by simp⟩, by simp⟩,
    List.forall_mem_singleton.mpr ?_⟩
  refine (Node.isPlain_element_iff number).mpr ⟨⟨⟨by simp [elementNames], by simp⟩, ?_⟩,
    List.forall_mem_singleton.mpr hpath⟩
  simp [attributeNames, tellingNames, hnumber, equals_not_mem_headId, Value.print]

end Arrow

variable [Coordinate α]

namespace Lifeline

/-- The profile of a lifeline. -/
def profile : Profile := ⟨["line"], [escape "pn-mermaid-lifeline".toList], [], []⟩

theorem collect_profile (l : Lifeline α) (p : Point α) :
    (l.draw p).collect (Node.profile number) layer =
      if .lifeline = layer then [profile] else [] := by
  have hprofile : profile = ⟨["line"], [escape "pn-mermaid-lifeline".toList], [], []⟩ := rfl
  rw [draw, hprofile, Sketch.collect_single]
  simp [Node.profile, Value.print, -String.reduceToList]

theorem isPlain_draw (hnumber : ∀ x, '=' ∉ number x) (l : Lifeline α) (p : Point α) :
    (l.draw p).IsPlain number := by
  refine Sketch.isPlain_single number (Node.isPlain_childless number (by simp [elementNames]) (by simp) ?_)
  simp only [List.forall_mem_cons, Value.print]
  simp [attributeNames, tellingNames, hnumber]

end Lifeline

namespace Label

theorem names_spans (x first : α) (lines : List (List Char)) :
    (spans x first lines).flatMap Node.names = List.replicate lines.length "tspan" := by
  unfold spans
  rw [List.flatMap_map]
  simp only [Node.names_element, Node.names_line, List.flatMap_cons, List.flatMap_nil,
    List.append_nil]
  rw [← List.map_eq_flatMap, List.map_const', List.length_zipIdx]

theorem values_spans {key : String} (hkey : key ∈ tellingNames) (x first : α)
    (lines : List (List Char)) : (spans x first lines).flatMap (Node.values number key) = [] := by
  unfold spans
  rw [List.flatMap_map, List.flatMap_eq_nil_iff]
  intro entry _
  simp only [tellingNames, List.mem_cons, List.not_mem_nil, or_false] at hkey
  rcases hkey with rfl | rfl | rfl <;> simp

theorem isPlain_spans (hnumber : ∀ x, '=' ∉ number x) (x first : α) (lines : List (List Char)) :
    ∀ node ∈ spans x first lines, node.IsPlain number := by
  intro node hnode
  unfold spans at hnode
  obtain ⟨⟨line, i⟩, -, rfl⟩ := List.mem_map.mp hnode
  refine (Node.isPlain_element_iff number).mpr
    ⟨⟨⟨by simp [elementNames], fun _ => ⟨escape line, rfl⟩⟩, ?_⟩, ?_⟩
  · simp [attributeNames, tellingNames, hnumber, Value.print]
  · rw [List.forall_mem_singleton, Node.isPlain_line_iff]
    exact isQuiet_escape line

/-- The profile of a label of some lines. -/
def profile (style : List Char) (lines : Nat) : Profile :=
  ⟨"text" :: List.replicate lines "tspan", [escape style], [], []⟩

/-- A label adds a text to the names of its lines. -/
theorem count_names_profile {style : List Char} {lines : Nat} {name : String} (h : name ≠ "tspan") :
    (profile style lines).names.count name = ["text"].count name := by
  have hlines : (List.replicate lines "tspan").count name = 0 :=
    List.count_eq_zero.mpr fun hmem => h (List.eq_of_mem_replicate hmem)
  rw [profile, List.count_cons, hlines, List.count_cons, List.count_nil]

theorem isBlank_single (line style : List Char) : (single line style).isBlank = line.isEmpty := by
  simp [isBlank, single]

theorem collect_profile (l : Label) (p : Point α) :
    (l.draw p).collect (Node.profile number) layer =
      if .text = layer ∧ l.isBlank = false then [profile l.style l.lines.length] else [] := by
  unfold draw
  split
  · next hblank => simp [hblank]
  · next hblank =>
    rw [Sketch.collect_single]
    have hvalues : ∀ key ∈ tellingNames,
        (spans p.x (l.firstLine p) l.lines).flatMap (Node.values number key) = [] :=
      fun key hkey => values_spans number hkey _ _ _
    have hclass := hvalues "class" (by simp [tellingNames])
    have hhead := hvalues "marker-end" (by simp [tellingNames])
    have hlayer := hvalues "data-layer" (by simp [tellingNames])
    simp [Node.profile, profile, Value.print, -String.reduceToList, names_spans, hclass, hhead,
      hlayer, hblank]

theorem isPlain_draw (hnumber : ∀ x, '=' ∉ number x) {l : Label} (hstyle : '=' ∉ l.style)
    (p : Point α) : (l.draw p).IsPlain number := by
  unfold draw
  split
  · exact Sketch.isPlain_empty number
  · refine Sketch.isPlain_single number ((Node.isPlain_element_iff number).mpr
      ⟨⟨⟨by simp [elementNames], by simp⟩, ?_⟩, ?_⟩)
    · simp only [List.forall_mem_cons, Value.print]
      simp [attributeNames, tellingNames, hnumber, hstyle]
    · rw [List.forall_mem_cons]
      exact ⟨(Node.isPlain_line_iff number).mpr isQuiet_nil, isPlain_spans number hnumber _ _ _⟩

end Label

namespace Box

/-- The profile of the rectangle of a box. -/
def profile (style : List Char) : Profile := ⟨["rect"], [escape style], [], []⟩

/-- A box shows its rectangle, and its label above it. -/
theorem collect_draw {β : Type} (f : Node α → β) (b : Box α) (p : Point α) :
    (b.draw p).collect f layer = (if .content = layer then [f (b.rectangle p)] else []) ++
      b.label.elim [] fun l => (l.draw p).collect f layer := by
  simp only [draw]
  cases b.label with
  | none => rw [Sketch.collect_single, Option.elim_none, List.append_nil]
  | some l => rw [Sketch.collect_append, Sketch.collect_single, Option.elim_some]

theorem collect_profile (b : Box α) (p : Point α) :
    (b.draw p).collect (Node.profile number) layer =
      (if .content = layer then [profile b.style] else []) ++
        b.label.elim [] fun l => (l.draw p).collect (Node.profile number) layer := by
  have hrectangle : (b.rectangle p).profile number = profile b.style := by
    simp [rectangle, profile, Node.profile, Value.print, -String.reduceToList]
  rw [collect_draw, hrectangle]

theorem isPlain_draw (hnumber : ∀ x, '=' ∉ number x) {b : Box α} (hstyle : '=' ∉ b.style)
    (hlabel : ∀ l ∈ b.label, '=' ∉ l.style) (p : Point α) : (b.draw p).IsPlain number := by
  have hrectangle : (b.rectangle p).IsPlain number := by
    refine Node.isPlain_childless number (by simp [elementNames]) (by simp) ?_
    simp only [List.forall_mem_cons, Value.print]
    simp [attributeNames, tellingNames, hnumber, hstyle, equals_not_mem_strokeColor]
  have houtline : (Sketch.single .content (b.rectangle p)).IsPlain number :=
    Sketch.isPlain_single number hrectangle
  simp only [draw]
  cases hl : b.label with
  | none => exact houtline
  | some l => exact houtline.append number (l.isPlain_draw number hnumber (hlabel l hl) p)

end Box

/-! ## Profiles of figures -/

/-- The profile of a node that figures show. -/
inductive IsFigureProfile : Profile → Prop
  | arrow (style : List Char) : IsFigureProfile (Arrow.profile style)
  | lifeline : IsFigureProfile Lifeline.profile
  | box (style : List Char) : IsFigureProfile (Box.profile style)
  | label (style : List Char) (lines : Nat) : IsFigureProfile (Label.profile style lines)

namespace IsFigureProfile

variable {profile : Profile}

theorem layers_eq_nil (h : IsFigureProfile profile) : profile.layers = [] := by
  cases h <;> rfl

/-- A figure defines nothing. -/
theorem defs_not_mem_names (h : IsFigureProfile profile) : "defs" ∉ profile.names := by
  cases h with
  | arrow => simp [Arrow.profile]
  | lifeline => simp [Lifeline.profile]
  | box => simp [Box.profile]
  | label => simp [Label.profile]

end IsFigureProfile

end TextDiagram
