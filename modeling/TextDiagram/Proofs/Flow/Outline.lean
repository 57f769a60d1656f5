import TextDiagram.Proofs.Figure.Outline
import TextDiagram.Proofs.Flow.Census

/-!
# What a flow chart shows of its labels

Two charts have the same form if they differ in ids and labels only, and not in the number of lines
of a label (`Chart.SameForm`). Main statements: closed charts of the same form are laid out with
the same outlines (`Chart.SameForm.collect_outline`), and the spans of a chart hold the lines of
its labels, node by node (`Chart.texts_sketch`).
-/

namespace TextDiagram.Flow

open Coordinate Svg Text

/-! ## Shown lines -/

theorem shownLines_eq_nil_iff {label : List Char} :
    shownLines label = [] ↔ label.all isBlank = true := by
  rw [← all_isBlank_shorten labelLimit, ← words_eq_nil_iff]
  unfold shownLines
  exact wrap_eq_nil_iff labelWidth 2 _

theorem isBlank_label (label style : List Char) :
    (⟨shownLines label, style⟩ : Label).isBlank = (shownLines label).isEmpty := by
  rw [isBlank_shownLines, Bool.eq_iff_iff, List.isEmpty_iff, shownLines_eq_nil_iff]

namespace Chart

/-- The ends of the edges among the nodes. -/
def ends (c : Chart) : List (Option Nat × Option Nat) :=
  c.edges.map fun e => (c.index? e.source, c.index? e.target)

/-- Two charts have nodes of the same shapes and with as many lines, node by node, and edges between
the same nodes, edge by edge. -/
structure SameForm (c other : Chart) : Prop where
  shapes : c.nodes.map Node.shape = other.nodes.map Node.shape
  lines : c.nodes.map (fun n => (shownLines n.label).length) =
    other.nodes.map fun n => (shownLines n.label).length
  ends : c.ends = other.ends

theorem SameForm.length_nodes {c other : Chart} (h : c.SameForm other) :
    c.nodes.length = other.nodes.length := by
  simpa using congrArg List.length h.shapes

theorem SameForm.grid_eq {c other : Chart} (h : c.SameForm other) : c.grid = other.grid := by
  rw [grid, grid, h.length_nodes]

/-! ## Arrows -/

section Arrows

variable {α : Type} [Coordinate α] {c : Chart} {d : Direction} {l : Layout α}

/-- The arrow between the boxes in two cells. -/
def link (g : Grid) (d : Direction) : Option Nat × Option Nat → Option (Arrow α)
  | (some i, some j) => some (connection (g.cell d i).center (g.cell d j).center boxExtent
      "pn-mermaid-edge".toList)
  | _ => none

theorem link_of_arrow_eq_ok {e : Edge} {a : Arrow α} (h : c.arrow d e = .ok a) :
    link c.grid d (c.index? e.source, c.index? e.target) = some a := by
  unfold arrow center? at h
  cases hs : c.index? e.source with
  | none =>
    rw [hs] at h
    cases h
  | some i =>
    cases ht : c.index? e.target with
    | none =>
      rw [hs, ht] at h
      cases h
    | some j =>
      rw [hs, ht] at h
      rw [link, ← Except.ok.inj h]

/-- An edge of a closed chart leads back to its node if its ends are found at the same place. -/
theorem IsClosed.isLoop_eq (h : c.IsClosed) {e : Edge} (he : e ∈ c.edges) :
    e.isLoop = decide (c.index? e.source = c.index? e.target) := by
  obtain ⟨hsource, htarget⟩ := h.ends e he
  have hiff : c.index? e.source = c.index? e.target ↔ e.source = e.target :=
    findIdx?_key_eq_iff h.nodup hsource htarget
  rw [Bool.eq_iff_iff, decide_eq_true_iff, hiff]
  simp [Edge.isLoop]

/-- The arrows of a closed chart are determined by its grid and the ends of its edges. -/
theorem IsClosed.map_some_arrows (h : c.IsClosed) (hl : c.layout d = .ok l) :
    l.arrows.map some = (c.ends.filter fun e => e.1 ≠ e.2).map (link c.grid d) := by
  obtain ⟨hforall, -, -⟩ := layout_eq_ok_iff.mp hl
  have harrows : c.drawnEdges.map (fun e => link c.grid d (c.index? e.source, c.index? e.target)) =
      l.arrows.map some := by
    rw [← List.forall₂_eq_eq_eq, List.forall₂_map_left_iff, List.forall₂_map_right_iff]
    exact hforall.imp fun _ _ ha => link_of_arrow_eq_ok ha
  -- whether an edge is drawn shows in its ends, as different nodes have different ids
  have hdrawn : c.drawnEdges = c.edges.filter fun e => c.index? e.source ≠ c.index? e.target := by
    refine List.filter_congr fun e he => ?_
    rw [h.isLoop_eq he, decide_not]
  rw [← harrows, hdrawn, Chart.ends, List.filter_map, List.map_map]
  rfl

theorem SameForm.arrows_eq {other : Chart} {l' : Layout α} (h : c.SameForm other)
    (hc : c.IsClosed) (hother : other.IsClosed) (hl : c.layout d = .ok l)
    (hl' : other.layout d = .ok l') : l.arrows = l'.arrows := by
  refine List.map_injective_iff.mpr (Option.some_injective _) ?_
  rw [hc.map_some_arrows hl, hother.map_some_arrows hl', h.ends, h.grid_eq]

end Arrows

end Chart

/-! ## Boxes -/

section Boxes

variable {α : Type} [Coordinate α] (number : α → List Char)

/-- The label in the box of a node. -/
def Node.caption (n : Node) : Label :=
  ⟨shownLines n.label, "pn-mermaid-label".toList⟩

theorem Node.collect_outline_box {n other : Node} (hshape : n.shape = other.shape)
    (hlines : (shownLines n.label).length = (shownLines other.label).length) (p : Point α)
    (layer : Layer) : (n.box.draw p).collect (Svg.Node.outline number) layer =
      (other.box.draw p).collect (Svg.Node.outline number) layer := by
  have hrectangle : (n.box : Box α).rectangle p = (other.box : Box α).rectangle p := by
    unfold Box.rectangle Node.box
    rw [hshape]
  have hblank : n.caption.isBlank = other.caption.isBlank := by
    unfold caption
    rw [isBlank_label, isBlank_label, Bool.eq_iff_iff, List.isEmpty_iff_length_eq_zero, hlines,
      List.isEmpty_iff_length_eq_zero]
  have hstyle : n.caption.style = other.caption.style := rfl
  have hcaption : (n.caption.draw p).collect (Svg.Node.outline number) layer =
      (other.caption.draw p).collect (Svg.Node.outline number) layer :=
    Label.collect_outline_congr number layer hstyle hlines hblank p
  rw [Box.collect_draw, Box.collect_draw, hrectangle]
  exact congrArg _ hcaption

theorem Node.texts_box (n : Node) (p : Point α) (layer : Layer) : (n.box.draw p).texts number layer =
    if .text = layer then (shownLines n.label).map Label.spanContent else [] := by
  rw [Box.texts_draw]
  show (n.caption.draw p).texts number layer = _
  rw [Label.texts_draw, caption, isBlank_label]
  cases shownLines n.label with
  | nil => simp
  | cons line lines => simp

namespace Chart

variable {c : Chart} {d : Direction} {l : Layout α}

/-- Closed charts of the same form have the same outlines on each layer. -/
theorem SameForm.collect_outline {other : Chart} {l' : Layout α} (h : c.SameForm other)
    (hc : c.IsClosed) (hother : other.IsClosed) (hl : c.layout d = .ok l)
    (hl' : other.layout d = .ok l') (layer : Layer) :
    l.sketch.collect (Svg.Node.outline number) layer =
      l'.sketch.collect (Svg.Node.outline number) layer := by
  obtain ⟨-, hnodes, -⟩ := layout_eq_ok_iff.mp hl
  obtain ⟨-, hnodes', -⟩ := layout_eq_ok_iff.mp hl'
  have hboxes : (l.nodes.map fun n =>
      (n.box.figure.draw n.box.position).collect (Svg.Node.outline number) layer) =
        l'.nodes.map fun n =>
          (n.box.figure.draw n.box.position).collect (Svg.Node.outline number) layer := by
    rw [hnodes, hnodes']
    -- there are as many nodes, so each has its box in the same cell
    refine List.ext_getElem (by simpa using h.length_nodes) fun i hi hi' => ?_
    have hlt : i < c.nodes.length := by simpa using hi
    have hlt' : i < other.nodes.length := by simpa using hi'
    have hshape : c.nodes[i].shape = other.nodes[i].shape := by
      have hmap := List.getElem_of_eq h.shapes (by simpa using hlt)
      rwa [List.getElem_map, List.getElem_map] at hmap
    have hlines : (shownLines c.nodes[i].label).length =
        (shownLines other.nodes[i].label).length := by
      have hmap := List.getElem_of_eq h.lines (by simpa using hlt)
      rwa [List.getElem_map, List.getElem_map] at hmap
    rw [List.getElem_map, List.getElem_map, getElem_placedNodes c d hlt,
      getElem_placedNodes other d hlt', h.grid_eq]
    exact Node.collect_outline_box number hshape hlines _ layer
  have hnodes : (l.nodes.flatMap fun n =>
      (n.box.figure.draw n.box.position).collect (Svg.Node.outline number) layer) =
        l'.nodes.flatMap fun n =>
          (n.box.figure.draw n.box.position).collect (Svg.Node.outline number) layer := by
    rw [List.flatMap_def, List.flatMap_def, hboxes]
  rw [Layout.collect_sketch, Layout.collect_sketch, h.arrows_eq hc hother hl hl', hnodes]

theorem texts_sketch (hl : c.layout d = .ok l) (layer : Layer) : l.sketch.texts number layer =
    if .text = layer then (c.nodes.flatMap fun n => shownLines n.label).map Label.spanContent
    else [] := by
  have harrows : (l.arrows.flatMap fun a => a.sketch.texts number layer) = [] := by
    rw [List.flatMap_eq_nil_iff]
    exact fun a _ => a.texts_sketch number layer
  rw [Layout.sketch, Sketch.texts_join, List.flatMap_append, List.flatMap_map, List.flatMap_map,
    harrows, List.append_nil, flatMap_nodes hl fun n p => n.texts_box number p layer]
  split
  · rw [List.map_flatMap]
  · exact flatMap_nil_const _

end Chart

end Boxes

end TextDiagram.Flow
