import TextDiagram.Proofs.Figure.Plain
import TextDiagram.Proofs.Svg.Xml

/-!
# Figures as XML

Figures have names, attributes and values that XML permits, whatever their labels say: what a label
says stands in escaped lines only (`Label.isXml_draw`).
-/

namespace TextDiagram

open Coordinate Svg

theorem all_isXmlChar_style {style : String} (h : style ∈ styles) :
    style.toList.all isXmlChar = true := by
  have hall : styles.all (fun style => style.toList.all isXmlChar) = true := by decide +kernel
  exact List.all_eq_true.mp hall style h

theorem all_isXmlChar_strokeColor : strokeColor.all isXmlChar = true := by decide +kernel

variable {α : Type} {number : α → List Char} {P : Char → Prop}
  (hnumber : ∀ x, (number x).all isXmlChar = true)

include hnumber

theorem all_isXmlChar_numbers (xs : List α) :
    ((Value.numbers xs).print number).all isXmlChar = true := by
  show ([' '].intercalate (xs.map number)).all isXmlChar = true
  induction xs with
  | nil => rfl
  | cons x xs ih =>
    cases xs with
    | nil => simpa using hnumber x
    | cons y xs =>
      rw [List.map_cons, List.map_cons, List.intercalate_cons_cons, ← List.map_cons,
        List.all_append, List.all_append, hnumber, ih]
      rfl

namespace Arrow

theorem isXml_sketch {a : Arrow α} (hstyle : a.style.all isXmlChar = true) :
    a.sketch.All (Svg.Node.IsXml number P) := by
  refine Sketch.all_single (Node.isXml_childless number P rfl (by simp) ?_)
  simp only [List.forall_mem_cons, Value.print]
  exact ⟨⟨rfl, hstyle⟩, ⟨rfl, rfl⟩, ⟨rfl, all_isXmlChar_strokeColor⟩, ⟨rfl, rfl⟩, ⟨rfl, hnumber _⟩,
    ⟨rfl, hnumber _⟩, ⟨rfl, hnumber _⟩, ⟨rfl, hnumber _⟩, List.forall_mem_nil _⟩

variable [Coordinate α]

theorem isXml_headDefinition : (headDefinition : Node α).IsXml number P := by
  have hpath : (Node.element "path" [("d", .text "M 0 0 L 10 5 L 0 10 z".toList),
      ("fill", .text strokeColor)] [] : Node α).IsXml number P := by
    refine Node.isXml_childless number P rfl (by simp) ?_
    simp only [List.forall_mem_cons, Value.print]
    exact ⟨⟨rfl, rfl⟩, ⟨rfl, all_isXmlChar_strokeColor⟩, List.forall_mem_nil _⟩
  refine (Node.isXml_element_iff number P).mpr ⟨⟨rfl, by simp, by simp⟩,
    List.forall_mem_singleton.mpr ?_⟩
  refine (Node.isXml_element_iff number P).mpr ⟨⟨rfl, by simp, ?_⟩,
    List.forall_mem_singleton.mpr hpath⟩
  simp only [List.forall_mem_cons, Value.print]
  exact ⟨⟨rfl, rfl⟩, ⟨rfl, hnumber _⟩, ⟨rfl, hnumber _⟩, ⟨rfl, rfl⟩, ⟨rfl, hnumber _⟩, ⟨rfl, hnumber _⟩,
    ⟨rfl, all_isXmlChar_numbers hnumber _⟩, List.forall_mem_nil _⟩

end Arrow

variable [Coordinate α]

namespace Lifeline

theorem isXml_draw (l : Lifeline α) (p : Point α) :
    (l.draw p).All (Svg.Node.IsXml number P) := by
  refine Sketch.all_single (Node.isXml_childless number P rfl (by simp) ?_)
  simp only [List.forall_mem_cons, Value.print]
  exact ⟨⟨rfl, rfl⟩, ⟨rfl, rfl⟩, ⟨rfl, rfl⟩, ⟨rfl, hnumber _⟩, ⟨rfl, hnumber _⟩, ⟨rfl, hnumber _⟩,
    ⟨rfl, hnumber _⟩, ⟨rfl, hnumber _⟩, List.forall_mem_nil _⟩

end Lifeline

namespace Label

theorem isXml_spans {lines : List (List Char)} (h : ∀ line ∈ lines, ∀ c ∈ line, P c) (x first : α) :
    ∀ node ∈ spans x first lines, node.IsXml number P := by
  intro node hnode
  unfold spans at hnode
  obtain ⟨⟨line, i⟩, hentry, rfl⟩ := List.mem_map.mp hnode
  have hline : line ∈ lines := List.fst_mem_of_mem_zipIdx hentry
  refine (Node.isXml_element_iff number P).mpr ⟨⟨rfl, by simp, ?_⟩, ?_⟩
  · simp only [List.forall_mem_cons, Value.print]
    exact ⟨⟨rfl, hnumber _⟩, ⟨rfl, hnumber _⟩, List.forall_mem_nil _⟩
  · rw [List.forall_mem_singleton, Node.isXml_line_iff]
    exact ⟨line, rfl, h line hline⟩

theorem isXml_draw {l : Label} (hstyle : l.style.all isXmlChar = true)
    (h : ∀ line ∈ l.lines, ∀ c ∈ line, P c) (p : Point α) :
    (l.draw p).All (Svg.Node.IsXml number P) := by
  unfold draw
  split
  · exact Sketch.all_empty
  · refine Sketch.all_single ((Node.isXml_element_iff number P).mpr ⟨⟨rfl, by simp, ?_⟩, ?_⟩)
    · simp only [List.forall_mem_cons, Value.print]
      exact ⟨⟨rfl, hstyle⟩, ⟨rfl, rfl⟩, ⟨rfl, rfl⟩, ⟨rfl, hnumber _⟩, ⟨rfl, rfl⟩, ⟨rfl, hnumber _⟩,
        ⟨rfl, hnumber _⟩, List.forall_mem_nil _⟩
    · rw [List.forall_mem_cons]
      exact ⟨(Node.isXml_line_iff number P).mpr ⟨[], rfl, List.forall_mem_nil _⟩,
        isXml_spans hnumber h _ _⟩

end Label

namespace Box

theorem isXml_draw {b : Box α} (hstyle : b.style.all isXmlChar = true)
    (hlabel : ∀ l ∈ b.label, l.style.all isXmlChar = true ∧ ∀ line ∈ l.lines, ∀ c ∈ line, P c)
    (p : Point α) : (b.draw p).All (Svg.Node.IsXml number P) := by
  have houtline : (Sketch.single .content (b.rectangle p)).All (Svg.Node.IsXml number P) := by
    refine Sketch.all_single (Node.isXml_childless number P rfl (by simp) ?_)
    simp only [List.forall_mem_cons, Value.print]
    exact ⟨⟨rfl, hstyle⟩, ⟨rfl, rfl⟩, ⟨rfl, hnumber _⟩, ⟨rfl, hnumber _⟩,
      ⟨rfl, all_isXmlChar_strokeColor⟩, ⟨rfl, rfl⟩, ⟨rfl, hnumber _⟩, ⟨rfl, hnumber _⟩,
      ⟨rfl, hnumber _⟩, List.forall_mem_nil _⟩
  simp only [draw]
  cases hl : b.label with
  | none => exact houtline
  | some l =>
    obtain ⟨hstyle, hlines⟩ := hlabel l hl
    exact houtline.append (Label.isXml_draw hnumber hstyle hlines p)

end Box

end TextDiagram
