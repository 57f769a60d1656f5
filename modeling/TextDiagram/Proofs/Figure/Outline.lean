import TextDiagram.Proofs.Figure.Plain
import TextDiagram.Proofs.Svg.Span

/-!
# What figures show of their labels

The outline of a figure does not depend on what its label says, but only on its style and on the
number of its lines (`Label.collect_outline_congr`). Its spans hold the lines of its label, escaped
(`Label.texts_draw`), and nothing else holds spans.
-/

namespace TextDiagram

open Coordinate Svg

variable {α : Type} (number : α → List Char) (layer : Layer)

/-- What the spans of the nodes on a layer hold. -/
def Svg.Sketch.texts (s : Sketch α) (layer : Layer) : List (List Char) :=
  (s.collect (Node.contents number) layer).flatten

theorem Svg.Sketch.texts_append (s t : Sketch α) :
    (s ++ t).texts number layer = s.texts number layer ++ t.texts number layer := by
  unfold texts
  rw [collect_append, List.flatten_append]

theorem Svg.Sketch.texts_join (sketches : List (Sketch α)) (layer : Layer) :
    (join sketches).texts number layer = sketches.flatMap fun s => s.texts number layer := by
  unfold texts
  rw [collect_join, ← List.flatMap_id, List.flatMap_assoc]
  simp only [List.flatMap_id]

theorem Svg.Node.contents_childless {name : String} (hne : name ≠ "tspan")
    (attributes : List (String × Value α)) :
    (Node.element name attributes [] : Node α).contents number = [] := by
  rw [contents_element number hne, List.flatMap_nil]

theorem Arrow.texts_sketch (a : Arrow α) : a.sketch.texts number layer = [] := by
  unfold Sketch.texts sketch
  rw [Sketch.collect_single, Node.contents_childless number (by simp)]
  split <;> rfl

variable [Coordinate α]

theorem Lifeline.texts_draw (l : Lifeline α) (p : Point α) : (l.draw p).texts number layer = [] := by
  unfold Sketch.texts draw
  rw [Sketch.collect_single, Node.contents_childless number (by simp)]
  split <;> rfl

namespace Label

/-- What a span holds that shows a line: the escaped line on a line of its own. -/
def spanContent (line : List Char) : List Char :=
  '\n' :: escape line ++ ['\n']

/-- The span of a line and its number. -/
def span (x first : α) (entry : List Char × Nat) : Node α :=
  .element "tspan" [("x", .number x), ("y", .number (first + whole entry.2 * whole lineHeight))]
    [.line (escape entry.1)]

theorem spans_eq_map (x first : α) (lines : List (List Char)) :
    spans x first lines = lines.zipIdx.map (span x first) := rfl

theorem contents_spans (x first : α) (lines : List (List Char)) :
    (spans x first lines).flatMap (Node.contents number) = lines.map spanContent := by
  have heach : ∀ entry : List Char × Nat,
      (span x first entry).contents number = [spanContent entry.1] := by
    intro entry
    unfold span Node.contents
    rw [separated_span]
    rfl
  rw [spans_eq_map, List.flatMap_map]
  simp only [heach]
  rw [← List.map_eq_flatMap]
  conv_rhs => rw [← List.zipIdx_map_fst 0 lines, List.map_map]
  rfl

/-- The outlines of lines do not depend on what they say. -/
theorem outline_spans_congr (x first : α) {lines others : List (List Char)}
    (h : lines.length = others.length) : (spans x first lines).map (Node.outline number) =
      (spans x first others).map (Node.outline number) := by
  have heach : ∀ entry : List Char × Nat, (span x first entry).outline number =
      (span x first ([], entry.2)).outline number := by
    intro entry
    unfold span Node.outline
    rw [separated_span, separated_span]
  have hnumbers : ∀ lines : List (List Char), (spans x first lines).map (Node.outline number) =
      (List.range' 0 lines.length).map fun i => (span x first ([], i)).outline number := by
    intro lines
    rw [spans_eq_map, List.map_map, ← List.zipIdx_map_snd, List.map_map]
    exact List.map_congr_left fun entry _ => heach entry
  rw [hnumbers, hnumbers, h]

theorem collect_outline_congr {l other : Label} (hstyle : l.style = other.style)
    (hlines : l.lines.length = other.lines.length) (hblank : l.isBlank = other.isBlank)
    (p : Point α) : (l.draw p).collect (Node.outline number) layer =
      (other.draw p).collect (Node.outline number) layer := by
  have hfirst : l.firstLine p = other.firstLine p := by
    unfold firstLine
    rw [hlines]
  unfold draw
  rw [hblank]
  split
  · rfl
  · have hspans := outline_spans_congr number p.x (other.firstLine p) hlines
    rw [Sketch.collect_single, Sketch.collect_single, hstyle, hfirst,
      outline_element_congr number (by simp)]
    rw [List.map_cons, List.map_cons, hspans]

theorem texts_draw (l : Label) (p : Point α) : (l.draw p).texts number layer =
    if .text = layer ∧ l.isBlank = false then l.lines.map spanContent else [] := by
  unfold draw Sketch.texts
  split
  · next hblank => simp [hblank]
  · next hblank =>
    have hline : (Node.line [] : Node α).contents number = [] := rfl
    rw [Sketch.collect_single, contents_element number (by simp), List.flatMap_cons, hline,
      contents_spans, List.nil_append]
    by_cases hlayer : Layer.text = layer
    · rw [if_pos hlayer, if_pos ⟨hlayer, by simpa using hblank⟩, List.flatten_singleton]
    · rw [if_neg hlayer, if_neg fun h => hlayer h.1, List.flatten_nil]

end Label

namespace Box

theorem texts_draw (b : Box α) (p : Point α) : (b.draw p).texts number layer =
    b.label.elim [] fun l => (l.draw p).texts number layer := by
  have hrectangle : (b.rectangle p).contents number = [] :=
    Node.contents_childless number (by simp) _
  unfold Sketch.texts
  have hnone : (if .content = layer then [([] : List (List Char))] else []).flatten = [] := by
    split <;> rfl
  rw [collect_draw, hrectangle, List.flatten_append, hnone, List.nil_append]
  cases b.label with
  | none => rfl
  | some l => rfl

end Box

end TextDiagram
