import TextDiagram.Picture
import TextDiagram.Proofs.Figure.Plain

/-!
# Documents

A document is the root element with the definition of the arrow head and the groups of a sketch. It
has the elements and the values of attributes that the profiles of the sketch have, apart from its
own (`count_names_root`, `class_root`, `markerEnd_root`, `dataLayer_root`), and is plain if the
sketch is (`isPlain_root`). Main statements: how often the parts of a picture occur in its markup is
added up over the profiles (`occurrences_opening_root`, `occurrences_class_root`,
`occurrences_markerEnd_root`), and each layer that holds a node occurs once, from the bottom up
(`hasLayers_root`).
-/

namespace TextDiagram

open Coordinate Svg Text

variable {α : Type} [Coordinate α] (number : α → List Char) (extent : Extent α) {s : Sketch α}

theorem count_names_root {name : String} (h : name ≠ "g") :
    (root extent s.groups).names.count name = ["svg", "defs", "marker", "path"].count name +
      ((s.profiles number).flatMap Profile.names).count name := by
  have hhead : (Arrow.headDefinition : Node α).names = ["defs", "marker", "path"] :=
    congrArg Profile.names (Arrow.profile_headDefinition number)
  rw [root, Node.names_element, List.flatMap_cons, hhead, ← Sketch.count_names_groups number h,
    ← List.count_append]
  rfl

theorem class_root : (root extent s.groups).values number "class" =
    escape "pn-mermaid".toList :: (s.profiles number).flatMap Profile.classes := by
  have hhead : (Arrow.headDefinition : Node α).values number "class" = [] :=
    congrArg Profile.classes (Arrow.profile_headDefinition number)
  rw [root, Node.values_element, List.flatMap_cons, hhead, Sketch.class_groups]
  simp [Value.print, -String.reduceToList]

theorem markerEnd_root : (root extent s.groups).values number "marker-end" =
    (s.profiles number).flatMap Profile.heads := by
  have hhead : (Arrow.headDefinition : Node α).values number "marker-end" = [] :=
    congrArg Profile.heads (Arrow.profile_headDefinition number)
  rw [root, Node.values_element, List.flatMap_cons, hhead, Sketch.markerEnd_groups]
  simp

theorem dataLayer_root (h : ∀ profile ∈ s.profiles number, profile.layers = []) :
    (root extent s.groups).values number "data-layer" =
      (Layer.all.filter fun layer => s.on layer ≠ []).map fun layer => layer.name.toList := by
  have hhead : (Arrow.headDefinition : Node α).values number "data-layer" = [] :=
    congrArg Profile.layers (Arrow.profile_headDefinition number)
  rw [root, Node.values_element, List.flatMap_cons, hhead, Sketch.dataLayer_groups number h]
  simp

theorem isPlain_root (hnumber : ∀ x, '=' ∉ number x) (h : s.IsPlain number) :
    (root extent s.groups).IsPlain number := by
  refine (Node.isPlain_element_iff number).mpr ⟨⟨⟨by simp [elementNames], by simp⟩, ?_⟩, ?_⟩
  · simp only [List.forall_mem_cons, Value.print]
    simp [attributeNames, tellingNames, hnumber]
  · rw [List.forall_mem_cons]
    exact ⟨Arrow.isPlain_headDefinition number hnumber, Sketch.isPlain_groups number h⟩

/-! ## Classes -/

section Style

variable {style other : String}

theorem escape_style (h : style ∈ styles) : escape style.toList = style.toList := by
  have hall : styles.all (fun style => escape style.toList == style.toList) = true := by
    decide +kernel
  exact beq_iff_eq.mp (List.all_eq_true.mp hall style h)

theorem isMark_style (h : style ∈ styles) :
    isMark (assignment "class" (style.toList ++ ['"'])) = true := by
  have hall : styles.all (fun style => isMark (assignment "class" (style.toList ++ ['"']))) = true := by
    decide +kernel
  exact List.all_eq_true.mp hall style h

theorem count_style (h : style ∈ styles) :
    [escape style.toList].count other.toList = [style].count other := by
  rw [escape_style h, List.count_singleton, List.count_singleton]
  simp [String.toList_inj]

end Style

/-! ## Counted parts -/

section Counted

variable (hnumber : ∀ x, '=' ∉ number x) (hs : s.IsPlain number)

include hnumber hs

theorem occurrences_opening_root {name : String} (hname : name ∈ elementNames) (hg : name ≠ "g") :
    occurrences (opening name) ((root extent s.groups).print number) =
      ["svg", "defs", "marker", "path"].count name +
        ((s.profiles number).map fun profile => profile.names.count name).sum := by
  rw [occurrences_opening number hname (isPlain_root number extent hnumber hs),
    count_names_root number extent hg, List.count_flatMap]
  rfl

theorem occurrences_class_root {style : String} (hstyle : style ∈ styles) :
    occurrences (assignment "class" (style.toList ++ ['"'])) ((root extent s.groups).print number) =
      ((s.profiles number).map fun profile => profile.classes.count style.toList).sum := by
  have hne : escape "pn-mermaid".toList ≠ style.toList := by
    have hall : styles.all (fun style => escape "pn-mermaid".toList != style.toList) = true := by
      decide +kernel
    exact bne_iff_ne.mp (List.all_eq_true.mp hall style hstyle)
  rw [occurrences_value number (by simp [tellingNames]) (isMark_style hstyle)
    (isPlain_root number extent hnumber hs), class_root, List.count_cons_of_ne hne,
    List.count_flatMap]
  rfl

theorem occurrences_markerEnd_root :
    occurrences (assignment "marker-end" []) ((root extent s.groups).print number) =
      ((s.profiles number).map fun profile => profile.heads.length).sum := by
  have hmark : isMark (assignment "marker-end" []) = true := by decide +kernel
  rw [occurrences_key number (by simp [tellingNames]) hmark
    (isPlain_root number extent hnumber hs), markerEnd_root, List.length_flatMap]

end Counted

/-! ## Layers -/

/-- The text by which the group of a layer is told apart in markup. -/
def layerMark (layer : Layer) : List Char :=
  "data-layer=\"".toList ++ layer.name.toList ++ ['"']

/-- The layers that show something stand in markup once each, from the bottom up, and no others. -/
def HasLayers (shows : Layer → Prop) (markup : List Char) : Prop :=
  ∃ present : List Layer, present.Sublist [.lifeline, .arrow, .content, .text] ∧
    (∀ layer, layer ∈ present ↔ shows layer) ∧
    occurring (Layer.all.map layerMark) markup = present.map layerMark ∧
    occurrences "data-layer=\"".toList markup = present.length

theorem assignment_layer (layer : Layer) :
    assignment "data-layer" (layer.name.toList ++ ['"']) = layerMark layer := by
  have hkey : assignment "data-layer" [] = "data-layer=\"".toList := by decide +kernel
  have h : assignment "data-layer" (layer.name.toList ++ ['"']) =
      assignment "data-layer" [] ++ (layer.name.toList ++ ['"']) :=
    assignment_append "data-layer" [] _
  rw [h, hkey]
  unfold layerMark
  exact (List.append_assoc ..).symm

theorem hasLayers_root (hnumber : ∀ x, '=' ∉ number x) (hs : s.IsPlain number)
    (hnone : ∀ profile ∈ s.profiles number, profile.layers = []) {shows : Layer → Prop}
    (hshows : ∀ layer, s.collect (Node.profile number) layer ≠ [] ↔ shows layer)
    (hback : ¬ shows .background) : HasLayers shows ((root extent s.groups).print number) := by
  have hon : ∀ layer, s.on layer ≠ [] ↔ shows layer := by
    intro layer
    rw [← hshows, Sketch.collect, Ne, Ne, List.map_eq_nil_iff]
  have hbackground : s.on .background = [] := not_not.mp fun h => hback ((hon .background).mp h)
  have hplain := isPlain_root number extent hnumber hs
  have htelling : "data-layer" ∈ tellingNames := by simp [tellingNames]
  have hkey : assignment "data-layer" [] = "data-layer=\"".toList := by decide +kernel
  have hvalues := dataLayer_root number extent hnone
  refine ⟨Layer.all.filter fun layer => s.on layer ≠ [], ?_, fun layer => ?_, ?_, ?_⟩
  · rw [Layer.all, List.filter_cons_of_neg (by simp [hbackground])]
    exact List.filter_sublist
  · rw [List.mem_filter, ← hon]
    simp [layer.mem_all]
  · -- the names of layers are different, so each mark begins with one name only
    have hnodup : (Layer.all.map fun layer => layer.name.toList).Nodup := by decide +kernel
    have hmark : ∀ v ∈ Layer.all.map (fun layer => layer.name.toList),
        isMark (assignment "data-layer" (v ++ ['"'])) = true := by decide +kernel
    have hknown : ∀ layer ∈ Layer.all.filter (fun layer => s.on layer ≠ []),
        layer.name.toList ∈ Layer.all.map fun layer => layer.name.toList :=
      fun layer _ => List.mem_map_of_mem layer.mem_all
    have h := occurring_values number htelling hnodup hmark hplain
    rw [hvalues, List.filter_map, List.map_map, List.map_map] at h
    simp only [Function.comp_def, assignment_layer] at h
    rw [h, List.filter_eq_self.mpr]
    simpa using hknown
  · have hmark : isMark (assignment "data-layer" []) = true := by decide +kernel
    rw [← hkey, occurrences_key number htelling hmark hplain, hvalues, List.length_map]

end TextDiagram
