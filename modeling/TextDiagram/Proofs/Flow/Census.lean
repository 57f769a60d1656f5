import TextDiagram.Proofs.Figure.Plain
import TextDiagram.Proofs.Flow.Layout
import TextDiagram.Proofs.Text.Fit

/-!
# The figures of a flow chart

A flow chart shows its edges as arrows, its nodes as boxes above them, and on top the labels that are
not blank. Main statement: the profiles of what lies on each layer, which do not depend on what the
labels say (`collect_profile`).
-/

namespace TextDiagram.Flow

open Coordinate Svg Text

/-- A label is drawn unless all of it is blank. -/
theorem isBlank_shownLines (label style : List Char) :
    (⟨shownLines label, style⟩ : Label).isBlank = label.all isBlank := by
  rw [← all_isBlank_shorten labelLimit, Bool.eq_iff_iff]
  exact all_isEmpty_wrap_iff labelWidth 2 _

variable {α : Type} [Coordinate α] (number : α → List Char)

theorem Layout.collect_sketch {β : Type} (f : Svg.Node α → β) (l : Layout α) (layer : Layer) :
    l.sketch.collect f layer =
      (l.nodes.flatMap fun n => (n.box.figure.draw n.box.position).collect f layer) ++
        l.arrows.flatMap fun a => a.sketch.collect f layer := by
  rw [Layout.sketch, Sketch.collect_join, List.flatMap_append, List.flatMap_map, List.flatMap_map]
  rfl

theorem style_connection (p q : Point α) (e : Extent α) (style : List Char) :
    (connection p q e style).style = style := by
  simp only [connection]
  split <;> rfl

namespace Chart

variable {c : Chart} {d : Direction} {l : Layout α}

/-- What is read off the nodes of a layout is what is read off those of the chart, if their place
does not matter. -/
theorem flatMap_nodes {β : Type} (hl : c.layout d = .ok l) {f : PlacedNode α → List β}
    {g : Node → List β} (h : ∀ n p, f ⟨n.id, ⟨n.box, p⟩⟩ = g n) :
    l.nodes.flatMap f = c.nodes.flatMap g := by
  obtain ⟨-, hnodes, -⟩ := layout_eq_ok_iff.mp hl
  have hmap : (c.placedNodes d).map f = c.nodes.map g := by
    refine List.ext_getElem (by simp) fun i _ hi => ?_
    have hlt : i < c.nodes.length := by simpa using hi
    rw [List.getElem_map, List.getElem_map, getElem_placedNodes c d hlt, h]
  rw [hnodes, List.flatMap_def, List.flatMap_def, hmap]

theorem style_of_mem_arrows (hl : c.layout d = .ok l) :
    ∀ a ∈ l.arrows, a.style = "pn-mermaid-edge".toList := by
  intro a ha
  obtain ⟨hforall, -, -⟩ := layout_eq_ok_iff.mp hl
  obtain ⟨i, hi, rfl⟩ := List.getElem_of_mem ha
  have harrow := (List.forall₂_iff_get.mp hforall).2 i (by rw [hforall.length_eq]; exact hi) hi
  simp only [arrow, bind_eq_ok_iff] at harrow
  obtain ⟨p, -, q, -, h⟩ := harrow
  rw [List.get_eq_getElem] at h
  rw [← Except.ok.inj h]
  exact style_connection ..

/-- The profiles of what lies on a layer. -/
def profilesOn (c : Chart) : Layer → List Profile
  | .background | .lifeline => []
  | .arrow => List.replicate c.drawnEdges.length (Arrow.profile "pn-mermaid-edge".toList)
  | .content => List.replicate c.nodes.length (Box.profile "pn-mermaid-node".toList)
  | .text => (c.nodes.filter fun n => n.label.all isBlank = false).map fun n =>
      Label.profile "pn-mermaid-label".toList (shownLines n.label).length

theorem collect_profile_box (n : Node) (p : Point α) (layer : Layer) :
    (n.box.draw p).collect (Svg.Node.profile number) layer =
      (if .content = layer then [Box.profile "pn-mermaid-node".toList] else []) ++
        if .text = layer ∧ n.label.all isBlank = false then
          [Label.profile "pn-mermaid-label".toList (shownLines n.label).length] else [] := by
  rw [Box.collect_profile, ← isBlank_shownLines n.label "pn-mermaid-label".toList]
  show _ ++ (Label.draw ⟨shownLines n.label, "pn-mermaid-label".toList⟩ p).collect
    (Svg.Node.profile number) layer = _
  rw [Label.collect_profile]
  rfl

/-- What lies on a layer: the arrows of the edges that are drawn, the boxes of the nodes, and the
labels that are not blank. -/
theorem collect_profile (hl : c.layout d = .ok l) (layer : Layer) :
    l.sketch.collect (Svg.Node.profile number) layer = c.profilesOn layer := by
  obtain ⟨hforall, -, -⟩ := layout_eq_ok_iff.mp hl
  have harrows := List.flatMap_congr fun a ha =>
    (Arrow.collect_profile number layer a).trans (by rw [style_of_mem_arrows hl a ha])
  rw [Layout.collect_sketch, harrows,
    flatMap_nodes hl fun n p => collect_profile_box number n p layer]
  cases layer with
  | background => simp [profilesOn]
  | lifeline => simp [profilesOn]
  | arrow => simp [profilesOn, flatMap_singleton_const, hforall.length_eq]
  | content => simp [profilesOn, flatMap_singleton_const]
  | text =>
    simp only [reduceCtorEq, ↓reduceIte, true_and, List.nil_append, flatMap_nil_const,
      List.append_nil, flatMap_ite, profilesOn]
    rw [List.map_eq_flatMap]

/-- What holds of the boxes of all nodes and of the arrows of edges holds of the whole chart. -/
theorem all_sketch {Q : Svg.Node α → Prop} (hl : c.layout d = .ok l)
    (hbox : ∀ n ∈ c.nodes, ∀ p : Point α, (n.box.draw p).All Q)
    (harrow : ∀ a : Arrow α, a.style = "pn-mermaid-edge".toList → a.sketch.All Q) :
    l.sketch.All Q := by
  obtain ⟨-, hnodes, -⟩ := layout_eq_ok_iff.mp hl
  refine Sketch.all_join fun s hs => ?_
  rcases List.mem_append.mp hs with hs | hs
  · obtain ⟨placed, hn, rfl⟩ := List.mem_map.mp hs
    rw [hnodes] at hn
    obtain ⟨i, hi, rfl⟩ := List.getElem_of_mem hn
    have hlt : i < c.nodes.length := by simpa using hi
    rw [getElem_placedNodes c d hlt]
    exact hbox _ (List.getElem_mem hlt) _
  · obtain ⟨a, ha, rfl⟩ := List.mem_map.mp hs
    exact harrow a (style_of_mem_arrows hl a ha)

/-- All figures of a chart are plain. -/
theorem isPlain_sketch (hnumber : ∀ x, '=' ∉ number x) (hl : c.layout d = .ok l) :
    l.sketch.IsPlain number := by
  refine all_sketch hl (fun n _ p => ?_) fun a ha => Arrow.isPlain_sketch number hnumber ?_
  · refine Box.isPlain_draw number hnumber (equals_not_mem_style (by simp [styles]))
      (fun t ht => ?_) p
    rw [← Option.some.inj ht]
    exact equals_not_mem_style (by simp [styles])
  · rw [ha]
    exact equals_not_mem_style (by simp [styles])

/-! ## What the figures add up to -/

theorem sum_profilesOn (c : Chart) {w : Profile → Nat} {k : Nat}
    (hlabel : ∀ lines, w (Label.profile "pn-mermaid-label".toList lines) = k) :
    ((Layer.all.flatMap c.profilesOn).map w).sum =
      c.drawnEdges.length * w (Arrow.profile "pn-mermaid-edge".toList) +
        c.nodes.length * w (Box.profile "pn-mermaid-node".toList) +
          c.nodes.countP (fun n => n.label.all isBlank = false) * k := by
  have hlayers : Layer.all.flatMap c.profilesOn =
      c.profilesOn .arrow ++ c.profilesOn .content ++ c.profilesOn .text := by
    simp [Layer.all, profilesOn]
  have htext : ((c.profilesOn .text).map w).sum =
      c.nodes.countP (fun n => n.label.all isBlank = false) * k := by
    have hall : ∀ profile ∈ c.profilesOn .text, w profile = k := by
      intro profile hprofile
      obtain ⟨n, -, rfl⟩ := List.mem_map.mp hprofile
      exact hlabel _
    rw [sum_map_of_forall hall, profilesOn, List.length_map, List.countP_eq_length_filter]
  rw [hlayers, List.map_append, List.map_append, List.sum_append, List.sum_append, htext]
  simp only [profilesOn, List.map_replicate, List.sum_replicate_nat]

end Chart

end TextDiagram.Flow
