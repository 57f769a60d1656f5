import TextDiagram.Proofs.Svg.Plain
import TextDiagram.Proofs.Svg.Sketch

/-!
# What lies on the layers

What is read off the nodes on a layer (`Sketch.collect`), such as the names of their elements and the
values of the attributes that tell them apart (`Profile`). Several sketches have that of each of them
in turn (`collect_join`). Main statements: the groups of a sketch have the elements and values of its
profiles (`count_names_groups`, `class_groups`, `markerEnd_groups`), and each layer that holds a node
is named once (`dataLayer_groups`).
-/

namespace TextDiagram.Svg

/-- What tells a node apart: the names of its elements, and the values of the telling attributes. -/
structure Profile where
  /-- The names of the elements. -/
  names : List String
  /-- The classes. -/
  classes : List (List Char)
  /-- The references to arrow heads. -/
  heads : List (List Char)
  /-- The names of layers. -/
  layers : List (List Char)

/-- The profile of a node. -/
def Node.profile {α : Type} (number : α → List Char) (node : Node α) : Profile where
  names := node.names
  classes := node.values number "class"
  heads := node.values number "marker-end"
  layers := node.values number "data-layer"

namespace Sketch

variable {α β : Type} (number : α → List Char)

/-- What is read off the nodes on a layer, in the order in which they were drawn. -/
def collect (f : Node α → β) (s : Sketch α) (layer : Layer) : List β :=
  (s.on layer).map f

/-- What lies on the layers has a property. -/
def All (Q : Node α → Prop) (s : Sketch α) : Prop :=
  ∀ layer, ∀ node ∈ s.on layer, Q node

/-- All nodes of a sketch are plain. -/
def IsPlain (s : Sketch α) : Prop :=
  s.All (Node.IsPlain number)

/-! ## Sketches put together -/

@[simp] theorem collect_empty (f : Node α → β) (layer : Layer) : empty.collect f layer = [] := rfl

@[simp] theorem collect_single (f : Node α → β) (layer other : Layer) (node : Node α) :
    (single layer node).collect f other = if layer = other then [f node] else [] := by
  unfold collect
  rw [on_single]
  split <;> rfl

@[simp] theorem collect_append (f : Node α → β) (s t : Sketch α) (layer : Layer) :
    (s ++ t).collect f layer = s.collect f layer ++ t.collect f layer := by
  unfold collect
  rw [on_append, List.map_append]

theorem collect_join (f : Node α → β) (sketches : List (Sketch α)) (layer : Layer) :
    (join sketches).collect f layer = sketches.flatMap fun s => s.collect f layer := by
  unfold collect
  rw [on_join, List.map_flatMap]

section All

variable {Q : Node α → Prop}

theorem all_empty : (empty : Sketch α).All Q :=
  fun _ _ hnode => absurd hnode List.not_mem_nil

theorem all_single {layer : Layer} {node : Node α} (h : Q node) : (single layer node).All Q := by
  intro other n hn
  rw [on_single] at hn
  split at hn
  · rw [List.mem_singleton.mp hn]
    exact h
  · exact absurd hn List.not_mem_nil

theorem All.append {s t : Sketch α} (hs : s.All Q) (ht : t.All Q) : (s ++ t).All Q := by
  intro layer node hnode
  rw [on_append] at hnode
  rcases List.mem_append.mp hnode with hnode | hnode
  · exact hs layer node hnode
  · exact ht layer node hnode

theorem all_join {sketches : List (Sketch α)} (h : ∀ s ∈ sketches, s.All Q) :
    (join sketches).All Q := by
  intro layer node hnode
  rw [on_join] at hnode
  obtain ⟨s, hs, hnode⟩ := List.mem_flatMap.mp hnode
  exact h s hs layer node hnode

end All

theorem isPlain_empty : (empty : Sketch α).IsPlain number := all_empty

theorem isPlain_single {layer : Layer} {node : Node α} (h : node.IsPlain number) :
    (single layer node).IsPlain number :=
  all_single h

theorem IsPlain.append {s t : Sketch α} (hs : s.IsPlain number) (ht : t.IsPlain number) :
    (s ++ t).IsPlain number :=
  All.append hs ht

/-! ## Groups -/

theorem flatMap_groups (s : Sketch α) (g : Node α → List β) : s.groups.flatMap g =
    Layer.all.flatMap fun layer =>
      if s.on layer = [] then [] else g (group layer (s.on layer)) := by
  rw [groups_eq_filterMap, flatMap_filterMap]
  refine List.flatMap_congr fun layer _ => ?_
  cases h : s.on layer with
  | nil => rw [group?_of_on_eq_nil h, if_pos rfl, Option.elim_none]
  | cons node nodes => rw [group?_of_on_eq_cons h, if_neg (by simp), Option.elim_some]

/-- The profiles of the nodes on all layers, from the bottom up. -/
def profiles (s : Sketch α) : List Profile :=
  Layer.all.flatMap (s.collect (Node.profile number))

theorem count_names_groups {name : String} (h : name ≠ "g") (s : Sketch α) :
    (s.groups.flatMap Node.names).count name =
      ((s.profiles number).flatMap Profile.names).count name := by
  have hprofiles : (s.profiles number).flatMap Profile.names =
      Layer.all.flatMap fun layer => (s.on layer).flatMap Node.names := by
    unfold profiles collect
    rw [List.flatMap_assoc]
    simp only [List.flatMap_map]
    rfl
  rw [hprofiles, flatMap_groups, List.count_flatMap, List.count_flatMap]
  refine congrArg List.sum (List.map_congr_left fun layer _ => ?_)
  rw [Function.comp_apply, Function.comp_apply]
  split
  · next hempty => rw [hempty, List.flatMap_nil]
  · rw [group, Node.names_element, List.count_cons_of_ne h.symm]

theorem values_groups {key : String} (hkey : key ≠ "data-layer") (s : Sketch α) :
    s.groups.flatMap (Node.values number key) =
      Layer.all.flatMap fun layer => (s.on layer).flatMap (Node.values number key) := by
  rw [flatMap_groups]
  refine List.flatMap_congr fun layer _ => ?_
  split
  · next h => rw [h, List.flatMap_nil]
  · rw [group, Node.values_element, List.filter_cons_of_neg (by simpa using hkey.symm)]
    rfl

theorem class_groups (s : Sketch α) : s.groups.flatMap (Node.values number "class") =
    (s.profiles number).flatMap Profile.classes := by
  unfold profiles collect
  rw [values_groups number (by simp), List.flatMap_assoc]
  simp only [List.flatMap_map]
  rfl

theorem markerEnd_groups (s : Sketch α) : s.groups.flatMap (Node.values number "marker-end") =
    (s.profiles number).flatMap Profile.heads := by
  unfold profiles collect
  rw [values_groups number (by simp), List.flatMap_assoc]
  simp only [List.flatMap_map]
  rfl

/-- Each layer that holds a node is named once in the groups, if its nodes name no layer. -/
theorem dataLayer_groups {s : Sketch α} (h : ∀ profile ∈ s.profiles number, profile.layers = []) :
    s.groups.flatMap (Node.values number "data-layer") =
      (Layer.all.filter fun layer => s.on layer ≠ []).map fun layer => layer.name.toList := by
  have hnone : ∀ layer, (s.on layer).flatMap (Node.values number "data-layer") = [] := by
    intro layer
    rw [List.flatMap_eq_nil_iff]
    intro node hnode
    have hmem : node.profile number ∈ s.collect (Node.profile number) layer :=
      List.mem_map_of_mem hnode
    exact h _ (List.mem_flatMap.mpr ⟨layer, layer.mem_all, hmem⟩)
  have heach : ∀ layer ∈ Layer.all, (if s.on layer = [] then [] else
      (group layer (s.on layer)).values number "data-layer") =
        if s.on layer ≠ [] then [layer.name.toList] else [] := by
    intro layer _
    have hescape : escape layer.name.toList = layer.name.toList := by
      cases layer <;> decide +kernel
    by_cases hempty : s.on layer = []
    · rw [if_pos hempty, if_neg (not_not.mpr hempty)]
    · rw [if_neg hempty, if_pos hempty, group, Node.values_element, hnone, List.append_nil]
      simp [Value.print, hescape]
  rw [flatMap_groups, List.flatMap_congr heach, flatMap_ite, List.map_eq_flatMap]

theorem exists_of_mem_groups {s : Sketch α} {node : Node α} (h : node ∈ s.groups) :
    ∃ layer, node = group layer (s.on layer) := by
  rw [groups_eq_filterMap] at h
  obtain ⟨layer, -, hgroup⟩ := List.mem_filterMap.mp h
  refine ⟨layer, ?_⟩
  unfold group? at hgroup
  split at hgroup
  · cases hgroup
  · exact (Option.some.inj hgroup).symm

/-- A group has a property if having it is passed on from what is grouped. -/
theorem All.groups {Q : Node α → Prop} {s : Sketch α} (h : s.All Q)
    (hgroup : ∀ layer nodes, (∀ node ∈ nodes, Q node) → Q (group layer nodes)) :
    ∀ node ∈ s.groups, Q node := by
  intro node hnode
  obtain ⟨layer, rfl⟩ := exists_of_mem_groups hnode
  exact hgroup layer _ (h layer)

theorem isPlain_groups {s : Sketch α} (h : s.IsPlain number) :
    ∀ node ∈ s.groups, node.IsPlain number := by
  refine All.groups h fun layer nodes hnodes => ?_
  have hname : '=' ∉ layer.name.toList := by
    cases layer <;> decide +kernel
  rw [group, Node.isPlain_element_iff]
  refine ⟨⟨⟨by simp [elementNames], by simp⟩, ?_⟩, hnodes⟩
  rw [List.forall_mem_singleton]
  exact ⟨by simp [attributeNames, tellingNames], hname⟩

end Sketch

end TextDiagram.Svg
