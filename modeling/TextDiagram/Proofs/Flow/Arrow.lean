import TextDiagram.Proofs.Figure.Arrow
import TextDiagram.Proofs.Flow.Layout

/-!
# Arrows between boxes

A connection leads from the side of the one box that faces the other to the opposite side of the
other (`connection_eq`). Boxes in different cells are so far apart in that direction that it crosses
a gap between them (`pitch_le_advance`). Main statement: the layout of every chart has one arrow for
each edge that is no loop, which joins the boxes of its ends and touches them only there
(`exists_layout_draws`).
-/

namespace TextDiagram.Flow

open Coordinate

theorem reach_of_neg {step : Rat} (h : step < 0) (size : Rat) : reach step size = -(size / 2) := by
  rw [reach, sign_of_neg h, half_rat]
  ring

theorem reach_of_nonneg {step : Rat} (h : 0 ≤ step) (size : Rat) : reach step size = size / 2 := by
  rw [reach, sign_of_nonneg h, half_rat]
  ring

/-- A connection joins the sides of two boxes that face each other. -/
theorem connection_eq (p q : Point Rat) (e : Extent Rat) (style : List Char) :
    connection p q e style = ⟨(p.frame e).middle (Side.facing p q),
      (q.frame e).middle (Side.facing p q).opposite, style⟩ := by
  unfold connection Side.facing
  simp only [Point.sub, magnitude_rat, less_rat, decide_eq_true_eq]
  split
  · split
    · next hx =>
      rw [reach_of_neg (by linarith)]
      ext <;> simp [Frame.middle, Side.opposite]
      ring
    · next hx =>
      rw [reach_of_nonneg (by linarith)]
      ext <;> simp [Frame.middle, Side.opposite]
  · split
    · next hy =>
      rw [reach_of_neg (by linarith)]
      ext <;> simp [Frame.middle, Side.opposite]
      ring
    · next hy =>
      rw [reach_of_nonneg (by linarith)]
      ext <;> simp [Frame.middle, Side.opposite]

/-- Towards a different cell, it is at least a column or a row further. -/
theorem Cell.pitch_le_advance {a b : Cell} (s : Side)
    (h : 0 < s.advance (a.center : Point Rat) b.center) :
    (if s.isHorizontal then 212 else 90) ≤ s.advance (a.center : Point Rat) b.center := by
  have hstep : ∀ {i j : Nat}, (i : Rat) < j → (i : Rat) + 1 ≤ j := fun hij => by
    exact_mod_cast hij
  -- out of each side, the advance is a whole number of columns or rows
  cases s <;> simp only [Side.advance, Cell.x_center, Cell.y_center] at h ⊢
  · have := hstep (i := b.column) (j := a.column) (by linarith)
    simp only [Side.isHorizontal, if_true]
    linarith
  · have := hstep (i := b.row) (j := a.row) (by linarith)
    simp only [Side.isHorizontal, Bool.false_eq_true, if_false]
    linarith
  · have := hstep (i := a.column) (j := b.column) (by linarith)
    simp only [Side.isHorizontal, if_true]
    linarith
  · have := hstep (i := a.row) (j := b.row) (by linarith)
    simp only [Side.isHorizontal, Bool.false_eq_true, if_false]
    linarith

theorem Cell.center_injective {a b : Cell} (h : (a.center : Point Rat) = b.center) : a = b := by
  have hx := congrArg Point.x h
  have hy := congrArg Point.y h
  rw [x_center, x_center] at hx
  rw [y_center, y_center] at hy
  have hcolumn : (a.column : Rat) = b.column := by linarith
  have hrow : (a.row : Rat) = b.row := by linarith
  exact Cell.ext (Nat.cast_inj.mp hcolumn) (Nat.cast_inj.mp hrow)

/-- A connection of boxes in different cells joins them across a gap. -/
theorem Cell.connection_joins {a b : Cell} (h : a ≠ b) (style : List Char) :
    ∃ s : Side, s.Faces (a.center : Point Rat) b.center ∧
      (connection (a.center : Point Rat) b.center boxExtent style).Joins a.frame b.frame s ∧
        (if s.isHorizontal then 44 else 34) ≤
          s.advance (connection (a.center : Point Rat) b.center boxExtent style).start
            (connection (a.center : Point Rat) b.center boxExtent style).finish := by
  have hfaces := Side.faces_facing fun he => h (Cell.center_injective he)
  have hpitch := Cell.pitch_le_advance _ hfaces.advance_pos
  refine ⟨_, hfaces, ?_⟩
  rw [connection_eq]
  generalize Side.facing (a.center : Point Rat) b.center = s at hpitch ⊢
  -- the gap is what the boxes leave of the pitch
  have hgap : (if s.isHorizontal then (44 : Rat) else 34) ≤
      s.advance (a.frame.middle s) (b.frame.middle s.opposite) := by
    rw [frame, frame, Side.advance_middle]
    cases hs : s.isHorizontal <;> rw [hs] at hpitch <;>
      simp [boxExtent, boxWidth, boxHeight] at hpitch ⊢ <;> linarith
  refine ⟨?_, hgap⟩
  have hpos : (0 : Rat) < if s.isHorizontal then 44 else 34 := by
    split <;> norm_num
  have hframe : ∀ (c : Cell) (s : Side), c.frame.Contains (c.frame.middle s) := fun c s =>
    Frame.contains_middle (by simp; linarith) (by simp; linarith) s
  exact Arrow.joins_of_advance_pos (hframe a s) (hframe b s.opposite) rfl rfl
    (lt_of_lt_of_le hpos hgap)

/-! ## The arrows of a chart -/

/-- The node of an id, with its box. -/
def Layout.node? (l : Layout Rat) (id : List Char) : Option (PlacedNode Rat) :=
  l.nodes.find? fun n => n.id == id

/-- A layout draws an edge by an arrow that leads from the box of its source to the box of its
target: from the middle of the side that faces the target to the middle of the opposite side, across
a gap, and without any other point in common with the two boxes. -/
def Layout.Draws (l : Layout Rat) (e : Edge) (a : Arrow Rat) : Prop :=
  ∃ m n s, l.node? e.source = some m ∧ l.node? e.target = some n ∧
    s.Faces m.box.position n.box.position ∧ a.Joins m.box.frame n.box.frame s ∧
      (if s.isHorizontal then 44 else 34) ≤ s.advance a.start a.finish

namespace Chart

variable {c : Chart} {d : Direction}

theorem IsClosed.node?_eq_some (h : c.IsClosed) {l : Layout Rat} (hl : c.layout d = .ok l) {i : Nat}
    (hi : i < c.nodes.length) : l.node? c.nodes[i].id =
      some ⟨c.nodes[i].id, ⟨c.nodes[i].box, (c.grid.cell d i).center⟩⟩ := by
  obtain ⟨-, hnodes, -⟩ := layout_eq_ok_iff.mp hl
  have hids : l.nodes.map PlacedNode.id = c.ids := by
    have := congrArg (List.map Prod.fst) (boxes_placedNodes (α := Rat) c d)
    simpa [hnodes, ids, List.map_map, Function.comp_def] using this
  have hlt : i < (c.placedNodes d : List (PlacedNode Rat)).length := by simpa using hi
  have hmem := List.getElem_mem hlt
  rw [getElem_placedNodes c d hi, ← hnodes] at hmem
  have hnodup : (l.nodes.map PlacedNode.id).Nodup := hids ▸ h.nodup
  exact find?_key hnodup hmem

/-- An edge that is no loop connects different cells, in each direction. -/
theorem IsClosed.exists_cells (h : c.IsClosed) {e : Edge} (he : e ∈ c.drawnEdges) :
    ∃ i j, ∃ (hi : i < c.nodes.length) (hj : j < c.nodes.length),
      c.nodes[i].id = e.source ∧ c.nodes[j].id = e.target ∧
      ∀ d, c.grid.cell d i ≠ c.grid.cell d j ∧
        c.arrow d e = .ok (connection (c.grid.cell d i).center (c.grid.cell d j).center
          (boxExtent : Extent Rat) "pn-mermaid-edge".toList) := by
  obtain ⟨he, hloop⟩ := List.mem_filter.mp he
  obtain ⟨i, j, hi, hj, hsource, htarget, harrow⟩ := h.arrow_eq_ok (α := Rat) he
  have hij : i ≠ j := by
    rintro rfl
    rw [Edge.isLoop, ← hsource, ← htarget] at hloop
    simp at hloop
  have hf : c.grid.Fits c.nodes.length := Grid.fits_ofCount (by omega)
  exact ⟨i, j, hi, hj, hsource, htarget, fun d =>
    ⟨fun hcell => hij (Grid.cell_injOn hf d hi hj hcell), harrow d⟩⟩

theorem IsClosed.draws (h : c.IsClosed) {l : Layout Rat} (hl : c.layout d = .ok l) {e : Edge}
    (he : e ∈ c.drawnEdges) {a : Arrow Rat} (ha : c.arrow d e = .ok a) : l.Draws e a := by
  obtain ⟨i, j, hi, hj, hsource, htarget, hcells⟩ := h.exists_cells he
  obtain ⟨hcell, harrow⟩ := hcells d
  obtain ⟨s, hfaces, hjoins, hgap⟩ := Cell.connection_joins hcell "pn-mermaid-edge".toList
  have hm := h.node?_eq_some hl hi
  have hn := h.node?_eq_some hl hj
  rw [hsource] at hm
  rw [htarget] at hn
  rw [Except.ok.inj (ha.symm.trans harrow)]
  exact ⟨_, _, s, hm, hn, hfaces, hjoins, hgap⟩

/-- A layout draws the edges that are no loops in order, each by one arrow. -/
theorem IsClosed.forall₂_draws (h : c.IsClosed) {l : Layout Rat} (hl : c.layout d = .ok l) :
    List.Forall₂ l.Draws (c.edges.filter fun e => e.source ≠ e.target) l.arrows := by
  have hedges : (c.edges.filter fun e => e.source ≠ e.target) = c.drawnEdges := by
    unfold drawnEdges Edge.isLoop
    exact List.filter_congr fun e _ => by simp [beq_eq_decide]
  rw [hedges]
  exact (forall₂_arrows hl).imp fun e a hea => h.draws hl hea.1 hea.2

/-- Every chart that is described by mentions can be laid out in each direction, and its edges that
are no loops are drawn in order, each by one arrow. -/
theorem exists_layout_draws (history : List Mention) (d : Direction) :
    ∃ l : Layout Rat, (ofMentions history).layout d = .ok l ∧
      List.Forall₂ l.Draws ((ofMentions history).edges.filter fun e => e.source ≠ e.target)
        l.arrows := by
  have h := isClosed_ofMentions history
  obtain ⟨l, hl⟩ := h.exists_layout (α := Rat) d
  exact ⟨l, hl, h.forall₂_draws hl⟩

end Chart

end TextDiagram.Flow
