import Mathlib.Data.List.Basic
import Mathlib.Tactic.Common
import TextDiagram.Plane
import TextDiagram.Proofs.Lists
import TextDiagram.Proofs.Svg.Groups

/-!
# Layers and their markup

Main statements: a layer of several sketches holds the nodes of each of them on that layer
(`on_join`), a node on the background makes up a group below all others (`groups_append_single`),
and one more node makes the markup longer (`length_printLines_lt`).
-/

namespace TextDiagram.Svg

namespace Sketch

variable {α : Type}

/-- A sketch is a straight line on a layer, from one point to another. -/
def IsLine (s : Sketch α) (layer : Layer) (p q : Point α) : Prop :=
  ∃ attributes, s = single layer (.element "line" attributes []) ∧
    attributes.lookup "x1" = some (.number p.x) ∧ attributes.lookup "y1" = some (.number p.y) ∧
    attributes.lookup "x2" = some (.number q.x) ∧ attributes.lookup "y2" = some (.number q.y)

/-- On each layer, several sketches have the nodes of each of them in turn. -/
theorem on_join (sketches : List (Sketch α)) (layer : Layer) :
    (join sketches).on layer = sketches.flatMap fun s => s.on layer := by
  have hfold : ∀ start : Sketch α, (sketches.foldl (· ++ ·) start).on layer =
      start.on layer ++ sketches.flatMap fun s => s.on layer := by
    induction sketches with
    | nil => simp
    | cons s sketches ih =>
      intro start
      rw [List.foldl_cons, ih, on_append, List.flatMap_cons, List.append_assoc]
  exact hfold empty

/-- Sketches that leave a layer alone also do so together. -/
theorem on_join_eq_nil {sketches : List (Sketch α)} {layer : Layer}
    (h : ∀ s ∈ sketches, s.on layer = []) : (join sketches).on layer = [] := by
  rw [on_join, List.flatMap_eq_nil_iff]
  exact h

/-- The group of a layer, unless the layer is empty. -/
def group? (s : Sketch α) (layer : Layer) : Option (Node α) :=
  if (s.on layer).isEmpty then none else some (group layer (s.on layer))

theorem group?_of_on_eq_nil {s : Sketch α} {layer : Layer} (h : s.on layer = []) :
    s.group? layer = none := by
  rw [group?, h]
  rfl

theorem group?_of_on_eq_cons {s : Sketch α} {layer : Layer} {node : Node α} {nodes : List (Node α)}
    (h : s.on layer = node :: nodes) : s.group? layer = some (group layer (node :: nodes)) := by
  rw [group?, h]
  rfl

/-- The groups are those of all layers, from the bottom up, as far as they hold a node. -/
theorem groups_eq_filterMap (s : Sketch α) : s.groups = Layer.all.filterMap s.group? := by
  obtain ⟨layers, hlayers, hmem, hgroups⟩ := s.exists_groups_eq
  have hgroup? : ∀ layer ∈ Layer.all, (s.group? layer).toList =
      if s.on layer ≠ [] then [group layer (s.on layer)] else [] := by
    intro layer _
    unfold group?
    cases s.on layer <;> rfl
  rw [hgroups, Layer.eq_filter_all hlayers hmem, List.filterMap_eq_flatMap_toList,
    List.flatMap_congr hgroup?, flatMap_ite, List.map_eq_flatMap]

/-- One node makes up a group of its own. -/
theorem groups_single (layer : Layer) (node : Node α) :
    (single layer node).groups = [group layer [node]] := by
  rw [groups_eq_filterMap]
  cases layer <;> rfl

/-- A node on a background that was empty makes up a group below all others. -/
theorem groups_append_single {s : Sketch α} (h : s.on .background = []) (node : Node α) :
    (s ++ single .background node).groups = group .background [node] :: s.groups := by
  have hback : (s ++ single .background node).on .background = [node] := by
    rw [on_append, on_single, if_pos rfl, h, List.nil_append]
  have hsame : ∀ layer ∈ [Layer.lifeline, .arrow, .content, .text],
      (s ++ single .background node).group? layer = s.group? layer := by
    intro layer hl
    have hne : Layer.background ≠ layer := by
      rintro rfl
      exact absurd hl (by decide)
    rw [group?, group?, on_append, on_single, if_neg hne, List.append_nil]
  rw [groups_eq_filterMap, groups_eq_filterMap]
  unfold Layer.all
  rw [List.filterMap_cons_some (group?_of_on_eq_cons hback),
    List.filterMap_cons_none (group?_of_on_eq_nil h), List.filterMap_congr hsame]

end Sketch

section Length

variable {α : Type} (number : α → List Char)

/-- One more node makes some lines longer. -/
theorem length_printLines_lt (node : Node α) (nodes : List (Node α)) :
    (printLines number nodes).length < (printLines number (node :: nodes)).length := by
  rw [printLines, List.length_append, List.length_cons]
  omega

/-- One more child behind the first makes an element longer. -/
theorem length_print_lt (name : String) (attributes : List (String × Value α))
    (first node : Node α) (nodes : List (Node α)) :
    ((Node.element name attributes (first :: nodes)).print number).length <
      ((Node.element name attributes (first :: node :: nodes)).print number).length := by
  have h := length_printLines_lt number node nodes
  simp only [Node.print, printLines, List.length_append, List.length_cons] at h ⊢
  omega

end Length

end TextDiagram.Svg
