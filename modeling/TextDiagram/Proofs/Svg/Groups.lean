import Mathlib.Data.List.Sort
import Mathlib.Tactic.Common
import TextDiagram.Svg.Sketch

/-!
# The groups of a sketch

A sketch is shown in groups, which are gathered in one run over the sorted nodes. A sketch is built
by adding single nodes and by merging it with other sketches (`Composition`). Main statements: sorting
keeps the nodes on each layer in their order (`filter_sorted`), the run makes one group for each layer
that holds a node (`exists_gather_eq`), and so the groups of any sketch, however it was built, are
those of its layers from the bottom up, each with the nodes added to its layer
(`Composition.exists_groups_sketch_eq`).
-/

namespace TextDiagram.Svg

namespace Layer

/-- No two layers have the same height. -/
theorem eq_of_height_eq {layer other : Layer} (h : layer.height = other.height) :
    layer = other := by
  cases layer <;> cases other <;> first | rfl | exact absurd h (by decide)

/-- The layers are listed from the bottom up. -/
theorem pairwise_all : all.Pairwise fun lower upper => lower.height < upper.height := by
  decide

/-- Layers from the bottom up are determined by which layers are among them. -/
theorem eq_filter_all {layers : List Layer}
    (h : layers.Pairwise fun lower upper => lower.height < upper.height) {p : Layer → Prop}
    [DecidablePred p] (hmem : ∀ layer, layer ∈ layers ↔ p layer) :
    layers = all.filter fun layer => p layer := by
  have : Std.Irrefl fun lower upper : Layer => lower.height < upper.height := ⟨fun _ => lt_irrefl _⟩
  have : Std.Antisymm fun lower upper : Layer => lower.height < upper.height :=
    ⟨fun _ _ h h' => absurd h (lt_asymm h')⟩
  refine h.eq_of_mem_iff (pairwise_all.filter _) fun layer => ?_
  rw [hmem, List.mem_filter, decide_eq_true_eq]
  exact (and_iff_right layer.mem_all).symm

/-- Layers from the bottom up are some of all layers, in their order. -/
theorem sublist_all {layers : List Layer}
    (h : layers.Pairwise fun lower upper => lower.height < upper.height) : layers.Sublist all := by
  rw [eq_filter_all h fun _ => Iff.rfl]
  exact List.filter_sublist

end Layer

namespace Sketch

variable {α : Type}

/-! ## The sorted nodes -/

section Sorting

variable (item other third : Layer × Node α)

private theorem height_trans (h : decide (item.1.height ≤ other.1.height) = true)
    (h' : decide (other.1.height ≤ third.1.height) = true) :
    decide (item.1.height ≤ third.1.height) = true := by
  rw [decide_eq_true_eq] at *
  exact h.trans h'

private theorem height_total : (decide (item.1.height ≤ other.1.height) ||
    decide (other.1.height ≤ item.1.height)) = true := by
  rw [Bool.or_eq_true, decide_eq_true_eq, decide_eq_true_eq]
  exact le_total _ _

end Sorting

/-- The nodes are sorted by the heights of their layers. -/
theorem pairwise_sorted (s : Sketch α) :
    s.sorted.Pairwise fun item other => item.1.height ≤ other.1.height :=
  (List.pairwise_mergeSort height_trans height_total s.items).imp of_decide_eq_true

/-- Sorting keeps the nodes on a layer, in the order in which they were drawn. -/
theorem filter_sorted (s : Sketch α) (layer : Layer) :
    (s.sorted.filter fun item => item.1 = layer) = s.items.filter fun item => item.1 = layer := by
  -- The nodes on one layer are sorted as they are, so that a stable sort keeps them as a sublist.
  have hsorted : (s.items.filter fun item => item.1 = layer).Pairwise
      fun item other => decide (item.1.height ≤ other.1.height) = true := by
    refine List.pairwise_of_forall_mem_list fun item hitem other hother => ?_
    have hl := of_decide_eq_true (List.mem_filter.mp hitem).2
    have hl' := of_decide_eq_true (List.mem_filter.mp hother).2
    rw [hl, hl']
    exact decide_eq_true le_rfl
  have hsub : (s.items.filter fun item => item.1 = layer).Sublist s.sorted :=
    List.sublist_mergeSort height_trans height_total hsorted List.filter_sublist
  have hfilter := hsub.filter fun item => item.1 = layer
  rw [List.filter_filter] at hfilter
  simp only [Bool.and_self] at hfilter
  exact (hfilter.eq_of_length ((List.mergeSort_perm ..).symm.filter _).length_eq).symm

/-! ## The run over the sorted nodes -/

theorem on_cons_of_eq (layer : Layer) (node : Node α) (items : List (Layer × Node α)) :
    on ⟨(layer, node) :: items⟩ layer = node :: on ⟨items⟩ layer := by
  simp [on]

theorem on_cons_of_ne {layer next : Layer} (h : next ≠ layer) (node : Node α)
    (items : List (Layer × Node α)) : on ⟨(next, node) :: items⟩ layer = on ⟨items⟩ layer := by
  simp [on, h]

/-- A layer that holds a node is that of some node. -/
theorem exists_mem_of_on_ne_nil {s : Sketch α} {layer : Layer} (h : s.on layer ≠ []) :
    ∃ item ∈ s.items, item.1 = layer := by
  obtain ⟨node, hnode⟩ := List.exists_mem_of_ne_nil _ h
  obtain ⟨item, hitem, -⟩ := List.mem_map.mp hnode
  obtain ⟨hmem, hlayer⟩ := List.mem_filter.mp hitem
  exact ⟨item, hmem, of_decide_eq_true hlayer⟩

/-- The layers above a layer that hold one of some nodes, from the bottom up. -/
structure HoldAbove (layer : Layer) (items : List (Layer × Node α)) (layers : List Layer) :
    Prop where
  rising : (layer :: layers).Pairwise fun lower upper => lower.height < upper.height
  mem_iff : ∀ upper, upper ∈ layers ↔ layer.height < upper.height ∧ on ⟨items⟩ upper ≠ []

namespace HoldAbove

variable {layer next : Layer} {items : List (Layer × Node α)} {layers : List Layer}

theorem nil (layer : Layer) : HoldAbove layer ([] : List (Layer × Node α)) [] where
  rising := List.pairwise_singleton ..
  mem_iff upper := by simp [on]

theorem ne (h : HoldAbove layer items layers) {upper : Layer} (hupper : upper ∈ layers) :
    layer ≠ upper := by
  rintro rfl
  exact lt_irrefl _ ((h.mem_iff _).mp hupper).1

/-- Another node on the layer changes nothing above it. -/
theorem joined (h : HoldAbove layer items layers) (node : Node α) :
    HoldAbove layer ((layer, node) :: items) layers where
  rising := h.rising
  mem_iff upper := by
    rw [h.mem_iff]
    refine and_congr_right fun hlt => ?_
    rw [on_cons_of_ne (by rintro rfl; exact lt_irrefl _ hlt)]

/-- A node on a layer further up, below which there is none of the others, adds its layer. -/
theorem ended (h : HoldAbove next items layers) (hlt : layer.height < next.height)
    (habove : ∀ item ∈ items, next.height ≤ item.1.height) (node : Node α) :
    HoldAbove layer ((next, node) :: items) (next :: layers) where
  rising := by
    refine List.pairwise_cons.mpr ⟨fun upper hupper => ?_, h.rising⟩
    rcases List.mem_cons.mp hupper with rfl | hupper
    · exact hlt
    · exact hlt.trans ((h.mem_iff upper).mp hupper).1
  mem_iff upper := by
    by_cases hupper : next = upper
    · subst hupper
      simp [hlt, on_cons_of_eq]
    · rw [on_cons_of_ne hupper, List.mem_cons, h.mem_iff]
      constructor
      · rintro (rfl | ⟨hheight, hon⟩)
        · exact absurd rfl hupper
        · exact ⟨hlt.trans hheight, hon⟩
      · rintro ⟨-, hon⟩
        obtain ⟨item, hitem, rfl⟩ := exists_mem_of_on_ne_nil hon
        refine .inr ⟨lt_of_le_of_ne (habove item hitem) fun heq => ?_, hon⟩
        exact hupper (Layer.eq_of_height_eq heq)

end HoldAbove

/-- The run over sorted nodes that begins with a group completes that group, and then makes one for
each higher layer that holds a node. -/
theorem exists_gather_eq {items : List (Layer × Node α)}
    (hsorted : items.Pairwise fun item other => item.1.height ≤ other.1.height) {layer : Layer}
    (habove : ∀ item ∈ items, layer.height ≤ item.1.height) (nodes : List (Node α)) :
    ∃ layers : List Layer, HoldAbove layer items layers ∧
      gather layer nodes items = group layer (nodes ++ on ⟨items⟩ layer) ::
        layers.map fun upper => group upper (on ⟨items⟩ upper) := by
  induction items generalizing layer nodes with
  | nil => exact ⟨[], .nil layer, by simp [gather, on]⟩
  | cons item items ih =>
    obtain ⟨next, node⟩ := item
    obtain ⟨hfirst, hrest⟩ := List.pairwise_cons.mp hsorted
    by_cases hnext : next = layer
    · -- The node joins the group.
      subst hnext
      obtain ⟨layers, hlayers, hgather⟩ := ih hrest hfirst (nodes ++ [node])
      refine ⟨layers, hlayers.joined node, ?_⟩
      rw [gather, if_pos rfl, hgather, on_cons_of_eq, List.append_assoc, List.singleton_append]
      congr 1
      exact List.map_congr_left fun upper hupper => by rw [on_cons_of_ne (hlayers.ne hupper)]
    · -- The node ends the group, since no node on a lower layer follows.
      have hlt : layer.height < next.height :=
        lt_of_le_of_ne (habove _ List.mem_cons_self) fun h => hnext (Layer.eq_of_height_eq h).symm
      have hnone : on ⟨items⟩ layer = [] := by
        by_contra h
        obtain ⟨item, hitem, rfl⟩ := exists_mem_of_on_ne_nil h
        exact absurd (hfirst item hitem) (not_le.mpr hlt)
      obtain ⟨layers, hlayers, hgather⟩ := ih hrest hfirst [node]
      refine ⟨next :: layers, hlayers.ended hlt hfirst node, ?_⟩
      rw [gather, if_neg hnext, hgather, on_cons_of_ne hnext, hnone, List.append_nil,
        List.map_cons, on_cons_of_eq, List.singleton_append]
      congr 2
      exact List.map_congr_left fun upper hupper => by rw [on_cons_of_ne (hlayers.ne hupper)]

/-! ## The groups -/

theorem on_sorted (s : Sketch α) (layer : Layer) : on ⟨s.sorted⟩ layer = s.on layer :=
  congrArg (List.map Prod.snd) (filter_sorted s layer)

/-- The groups are those of the layers that hold a node, from the bottom up. -/
theorem exists_groups_eq (s : Sketch α) :
    ∃ layers : List Layer,
      layers.Pairwise (fun lower upper => lower.height < upper.height) ∧
      (∀ layer, layer ∈ layers ↔ s.on layer ≠ []) ∧
      s.groups = layers.map fun layer => group layer (s.on layer) := by
  cases hs : s.sorted with
  | nil =>
    refine ⟨[], .nil, fun layer => ?_, ?_⟩
    · rw [← on_sorted, hs]
      simp [on]
    · rw [groups, hs]
      rfl
  | cons item items =>
    have hon : ∀ layer, on ⟨item :: items⟩ layer = s.on layer := fun layer => hs ▸ s.on_sorted layer
    have hsorted := hs ▸ s.pairwise_sorted
    have hfirst : ∀ other ∈ item :: items, item.1.height ≤ other.1.height :=
      List.forall_mem_cons.mpr ⟨le_rfl, (List.pairwise_cons.mp hsorted).1⟩
    obtain ⟨layers, hlayers, hgather⟩ := exists_gather_eq hsorted hfirst []
    simp only [hon] at hgather
    refine ⟨item.1 :: layers, hlayers.rising, fun layer => ?_, ?_⟩
    · rw [List.mem_cons, hlayers.mem_iff, hon]
      constructor
      · rintro (rfl | h)
        · rw [← hon, on_cons_of_eq]
          simp
        · exact h.2
      · intro h
        have hmem : on ⟨item :: items⟩ layer ≠ [] := hon layer ▸ h
        obtain ⟨other, hother, rfl⟩ := exists_mem_of_on_ne_nil hmem
        by_cases heq : other.1 = item.1
        · exact .inl heq
        · refine .inr ⟨lt_of_le_of_ne (hfirst other hother) fun hheight => ?_, h⟩
          exact heq (Layer.eq_of_height_eq hheight).symm
    · rw [groups, hs]
      exact hgather

theorem count_eq_length_on (s : Sketch α) (layer : Layer) : s.count layer = (s.on layer).length := by
  rw [count, on, List.length_map]

end Sketch

/-! ## Sketches as they are built -/

/-- How a sketch is built: node by node, and by merging sketches that were built themselves. -/
inductive Composition (α : Type)
  /-- No node yet. -/
  | blank
  /-- One more node on a layer. -/
  | add (before : Composition α) (layer : Layer) (node : Node α)
  /-- The nodes of another sketch. -/
  | merge (before other : Composition α)

namespace Composition

variable {α : Type}

/-- The sketch that is built. -/
def sketch : Composition α → Sketch α
  | blank => .empty
  | add before layer node => before.sketch ++ .single layer node
  | merge before other => before.sketch ++ other.sketch

/-- The nodes added to a layer, in the order in which they were added. -/
def added : Composition α → Layer → List (Node α)
  | blank, _ => []
  | add before layer node, other => before.added other ++ if layer = other then [node] else []
  | merge before other, layer => before.added layer ++ other.added layer

/-- The sketch holds on each layer the nodes added to it. -/
theorem on_sketch (c : Composition α) (layer : Layer) : c.sketch.on layer = c.added layer := by
  induction c with
  | blank => rfl
  | add before other node ih => rw [sketch, added, Sketch.on_append, Sketch.on_single, ih]
  | merge before other ihbefore ihother =>
    rw [sketch, added, Sketch.on_append, ihbefore, ihother]

/-- However a sketch was built, its groups are those of the layers with a node from the bottom up,
and each holds the nodes added to its layer. Merging another sketch adds its nodes behind them. -/
theorem exists_groups_sketch_eq (c : Composition α) :
    (∃ layers : List Layer, layers.Sublist [.background, .lifeline, .arrow, .content, .text] ∧
      (∀ layer, layer ∈ layers ↔ 0 < c.sketch.count layer) ∧
      c.sketch.groups = layers.map fun layer =>
        .element "g" [("data-layer", .text layer.name.toList)] (c.added layer)) ∧
    (∀ layer, c.sketch.count layer = (c.added layer).length) ∧
    ∀ other : Composition α, ∃ layers : List Layer,
      layers.Sublist [.background, .lifeline, .arrow, .content, .text] ∧
      (∀ layer, layer ∈ layers ↔ 0 < c.sketch.count layer ∨ 0 < other.sketch.count layer) ∧
      (c.merge other).sketch.groups = layers.map fun layer =>
        .element "g" [("data-layer", .text layer.name.toList)]
          (c.added layer ++ other.added layer) := by
  have hcount : ∀ (c : Composition α) layer, c.sketch.count layer = (c.added layer).length :=
    fun c layer => by rw [Sketch.count_eq_length_on, on_sketch]
  refine ⟨?_, hcount c, fun other => ?_⟩
  · obtain ⟨layers, hlayers, hmem, hgroups⟩ := c.sketch.exists_groups_eq
    simp only [on_sketch] at hmem hgroups
    exact ⟨layers, Layer.sublist_all hlayers,
      fun layer => by rw [hmem, hcount, List.length_pos_iff], hgroups⟩
  · obtain ⟨layers, hlayers, hmem, hgroups⟩ := (c.merge other).sketch.exists_groups_eq
    simp only [on_sketch, added] at hmem hgroups
    refine ⟨layers, Layer.sublist_all hlayers, fun layer => ?_, hgroups⟩
    rw [hmem, hcount, hcount, List.length_pos_iff, List.length_pos_iff, ne_eq,
      List.append_eq_nil_iff, not_and_or]

end Composition

end TextDiagram.Svg
