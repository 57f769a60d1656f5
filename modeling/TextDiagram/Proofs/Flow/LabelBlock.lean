import TextDiagram.Proofs.Figure.Label
import TextDiagram.Proofs.Flow.Layout
import TextDiagram.Proofs.Svg.Node

/-!
# Labels within their boxes

The label of a node is shortened and wrapped, so that it has so few lines that they stand within the
box of the node. Main statement: labels are centred on the points around which they are drawn, and
the lines of every node of every chart stand within its box (`draw_areCentred_and_standWithin`).
-/

namespace TextDiagram

open Coordinate Svg

/-- The lines of a figure, each as high as a line around the height at which its span stands, stand
between the upper and the lower side of the figure. -/
def Placed.LinesStandWithin {φ : Type} [Figure φ Rat] (p : Placed φ Rat) : Prop :=
  ∀ item ∈ p.sketch.items, ∀ attributes children,
    Node.element "tspan" attributes children ∈ item.2.subnodes →
      ∃ y, attributes.lookup "y" = some (.number y) ∧ p.frame.top ≤ y - 8 ∧ y + 8 ≤ p.frame.bottom

/-- A box shows some lines: above its rectangle there is nothing, if all of them are empty, and
otherwise one text, with a span for each line. One follows the other at the distance of a line, and
all are centred on the middle of the box. -/
def Placed.ShowsLines (p : Placed (Box Rat) Rat) (lines : List (List Char)) : Prop :=
  ((∀ line ∈ lines, line = []) ∧
    p.sketch = .single .content (p.figure.rectangle p.position)) ∨
  (∃ line ∈ lines, line ≠ []) ∧ ∃ attributes heights,
    p.sketch = .single .content (p.figure.rectangle p.position) ++
      .single .text (.element "text" attributes
        (.line [] :: heights.zipWith (Label.spanAt p.position.x) lines)) ∧
    heights.length = lines.length ∧ AreCentred heights p.position.y

namespace Label

variable {l : Label}

/-- A label with a line that shows something is drawn as one text, centred on a point. -/
theorem exists_draw_areCentred (h : ∃ line ∈ l.lines, line ≠ []) (p : Point Rat) :
    ((l.lines.length - 1 : Nat) : Int) = l.lines.length - 1 ∧
    ∃ attributes heights,
      l.draw p = .single .text
        (.element "text" attributes (.line [] :: heights.zipWith (spanAt p.x) l.lines)) ∧
      heights.length = l.lines.length ∧ AreCentred heights p.y := by
  have hblank : l.isBlank = false := by
    obtain ⟨line, hline, hne⟩ := h
    rw [← Bool.not_eq_true, isBlank_iff]
    exact fun hall => hne (hall line hline)
  have hne := lines_ne_nil hblank
  obtain ⟨attributes, hdraw⟩ := exists_draw_eq hblank p
  exact ⟨Nat.cast_pred (List.length_pos_iff.mpr hne), attributes, l.heights p, hdraw,
    length_steps .., areCentred_heights hne p⟩

/-- Each span of a label stands at the height of one of its lines. -/
theorem exists_mem_heights {p : Point Rat} {item : Layer × Svg.Node Rat}
    (hitem : item ∈ (l.draw p).items) {attributes : List (String × Value Rat)}
    {children : List (Svg.Node Rat)}
    (h : Node.element "tspan" attributes children ∈ item.2.subnodes) :
    ∃ y ∈ l.heights p, attributes.lookup "y" = some (.number y) := by
  cases hblank : l.isBlank with
  | true =>
    rw [draw_of_isBlank hblank] at hitem
    exact absurd hitem List.not_mem_nil
  | false =>
    obtain ⟨_, hdraw⟩ := exists_draw_eq hblank p
    rw [hdraw] at hitem
    rw [List.mem_singleton.mp hitem] at h
    rw [subnodes_element, List.mem_cons, List.flatMap_cons, subnodes_line,
      ← List.map_uncurry_zip_eq_zipWith] at h
    rcases h with h | h
    · exact absurd (Node.element.inj h).1 (by decide)
    · rcases List.mem_append.mp h with h | h
      · exact absurd (List.mem_singleton.mp h) (by simp)
      · obtain ⟨span, hspan, h⟩ := List.mem_flatMap.mp h
        obtain ⟨⟨y, line⟩, hzip, rfl⟩ := List.mem_map.mp hspan
        refine ⟨y, (List.of_mem_zip hzip).1, ?_⟩
        rw [Function.uncurry_apply_pair, spanAt, subnodes_element, List.mem_cons] at h
        rcases h with h | h
        · rw [(Node.element.inj h).2.1]
          rfl
        · simp at h

end Label

namespace Flow

theorem length_shownLines_le (label : List Char) : (shownLines label).length ≤ 3 :=
  Text.length_wrap_le ..

/-- Three lines are less high than the box of a node. -/
theorem Node.linesStandWithin_box (n : Node) (p : Point Rat) :
    (⟨n.box, p⟩ : Placed (Box Rat) Rat).LinesStandWithin := by
  intro item hitem attributes children h
  have hitem : item ∈ (Sketch.single .content (n.box.rectangle p) ++
    Label.draw ⟨shownLines n.label, "pn-mermaid-label".toList⟩ p).items := hitem
  rcases List.mem_append.mp hitem with hitem | hitem
  · rw [List.mem_singleton.mp hitem, Box.rectangle, subnodes_element, List.flatMap_nil,
      List.mem_singleton] at h
    exact absurd (Svg.Node.element.inj h).1 (by decide)
  · obtain ⟨y, hy, hlookup⟩ := Label.exists_mem_heights hitem h
    obtain ⟨htop, hbottom⟩ := Label.mem_heights_bounds hy
    have hlines : ((shownLines n.label).length : Rat) ≤ 3 := by
      exact_mod_cast length_shownLines_le n.label
    have hheight : (boxExtent : Extent Rat).height / 2 = 28 := by
      show ((boxHeight : Nat) : Rat) / 2 = 28
      norm_num [boxHeight]
    have hroom : (3 : Rat) * 8 ≤ 28 := by norm_num
    refine ⟨y, hlookup, ?_, ?_⟩
    · show (p.frame boxExtent).top ≤ y - 8
      rw [top_frame, hheight]
      linarith
    · show y + 8 ≤ (p.frame boxExtent).bottom
      rw [bottom_frame, hheight]
      linarith

/-- The box of a node shows the lines of its label. -/
theorem Node.showsLines_box (n : Node) (p : Point Rat) :
    (⟨n.box, p⟩ : Placed (Box Rat) Rat).ShowsLines (shownLines n.label) := by
  have hsketch : (⟨n.box, p⟩ : Placed (Box Rat) Rat).sketch =
      .single .content (n.box.rectangle p) ++
        Label.draw ⟨shownLines n.label, "pn-mermaid-label".toList⟩ p := rfl
  by_cases hall : ∀ line ∈ shownLines n.label, line = []
  · refine Or.inl ⟨hall, ?_⟩
    rw [hsketch, Label.draw_of_isBlank (Label.isBlank_iff.mpr hall)]
    rfl
  · have hshown : ∃ line ∈ shownLines n.label, line ≠ [] := by
      simpa only [not_forall, exists_prop] using hall
    obtain ⟨-, attributes, heights, hdraw, hcount, hcentred⟩ :=
      Label.exists_draw_areCentred (l := ⟨shownLines n.label, "pn-mermaid-label".toList⟩) hshown p
    refine Or.inr ⟨hshown, attributes, heights, ?_, hcount, hcentred⟩
    rw [hsketch, hdraw]

/-- A label without a line that shows anything draws nothing. Any other label is drawn as one text,
in which one line follows the other at the distance of a line and all are centred on the point around
which the label is drawn; one less than the number of its lines is no negative number. In each chart,
the box of each node shows the lines of the label of the node, and they stand within the box. -/
theorem draw_areCentred_and_standWithin :
    (∀ (l : Label) (p : Point Rat), (∀ line ∈ l.lines, line = []) → l.draw p = .empty) ∧
    (∀ (l : Label) (p : Point Rat), (∃ line ∈ l.lines, line ≠ []) →
      ((l.lines.length - 1 : Nat) : Int) = l.lines.length - 1 ∧
      ∃ attributes heights,
        l.draw p = .single .text
          (.element "text" attributes (.line [] :: heights.zipWith (Label.spanAt p.x) l.lines)) ∧
        heights.length = l.lines.length ∧ AreCentred heights p.y) ∧
    ∀ (history : List Mention) (d : Direction), ∃ l : Layout Rat,
      (Chart.ofMentions history).layout d = .ok l ∧
      l.nodes.map (fun n => (n.id, n.box.figure)) =
        (Chart.ofMentions history).nodes.map (fun n => (n.id, n.box)) ∧
      List.Forall₂ (fun node n => n.box.ShowsLines (shownLines node.label))
        (Chart.ofMentions history).nodes l.nodes ∧
      ∀ n ∈ l.nodes, n.box.LinesStandWithin := by
  refine ⟨fun l p h => Label.draw_of_isBlank (Label.isBlank_iff.mpr h) p,
    fun l p h => Label.exists_draw_areCentred h p, fun history d => ?_⟩
  obtain ⟨l, hl⟩ := (Chart.isClosed_ofMentions history).exists_layout (α := Rat) d
  obtain ⟨-, hnodes, -⟩ := Chart.layout_eq_ok_iff.mp hl
  refine ⟨l, hl, Chart.boxes_of_layout hl, ?_, fun n hn => ?_⟩
  · rw [hnodes]
    exact Chart.forall₂_placedNodes fun i hi => Node.showsLines_box _ _
  · rw [hnodes] at hn
    obtain ⟨i, hi, rfl⟩ := List.getElem_of_mem hn
    have hlt : i < (Chart.ofMentions history).nodes.length := by simpa using hi
    rw [Chart.getElem_placedNodes _ d hlt]
    exact Node.linesStandWithin_box _ _

/-- A label whose second line is empty. -/
def gappedLabel : Label :=
  ⟨["one".toList, [], "two".toList], "pn-mermaid-label".toList⟩

theorem draw_areCentred_and_standWithin_gapped :
    (Label.mk [] []).draw (⟨50, 40⟩ : Point Rat) = .empty ∧
    (∃ line ∈ gappedLabel.lines, line ≠ []) ∧
    (∃ attributes heights, gappedLabel.draw ⟨50, 40⟩ = .single .text
      (.element "text" attributes
        (.line [] :: heights.zipWith (Label.spanAt 50) gappedLabel.lines)) ∧
      heights.length = 3 ∧ AreCentred heights 40) ∧
    ∃ l : Layout Rat, (Chart.ofMentions Chart.sevenNodes).layout .left = .ok l ∧
      List.Forall₂ (fun node n => n.box.ShowsLines (shownLines node.label))
        (Chart.ofMentions Chart.sevenNodes).nodes l.nodes ∧
      l.nodes.length = 7 ∧ ∀ n ∈ l.nodes, n.box.LinesStandWithin := by
  obtain ⟨hblank, hshown, hcharts⟩ := draw_areCentred_and_standWithin
  have hline : ∃ line ∈ gappedLabel.lines, line ≠ [] := ⟨"one".toList, by decide, by decide⟩
  obtain ⟨-, hdraw⟩ := hshown gappedLabel ⟨50, 40⟩ hline
  obtain ⟨l, hl, hnodes, hshows, hwithin⟩ := hcharts Chart.sevenNodes .left
  have hcount := congrArg List.length hnodes
  rw [List.length_map, List.length_map] at hcount
  exact ⟨hblank _ _ fun _ h => absurd h List.not_mem_nil, hline, hdraw, l, hl, hshows,
    hcount.trans (by decide), hwithin⟩

end Flow

end TextDiagram
