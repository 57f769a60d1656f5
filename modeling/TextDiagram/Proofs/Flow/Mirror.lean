import TextDiagram.Proofs.Flow.Arrow

/-!
# Reflected layouts

A layout upwards or to the left is the mirror image of the one downwards or to the right. The cells
are reflected by the grid; connections follow, because the side that faces from a point to another
is the only one that does (`Faces.unique`), so that it is reflected along with them
(`connection_mirror`). Main statement: in every direction the boxes are those of the chart's nodes and
the arrows join the ends of its edges, opposite directions are mirror images, and downwards and to
the right the nodes are read in order (`exists_layout_isMirror`).
-/

namespace TextDiagram

/-! ## Reflected sides and arrows -/

/-- A side of a frame in a picture reflected about a centre line. -/
def Side.mirror (axis : Axis) (s : Side) : Side :=
  match axis with
  | .vertical => if s.isHorizontal then s.opposite else s
  | .horizontal => if s.isHorizontal then s else s.opposite

theorem Frame.middle_mirror (axis : Axis) (e : Extent Rat) (f : Frame Rat) (s : Side) :
    (f.mirror axis e).middle (s.mirror axis) = (f.middle s).mirror axis e := by
  cases axis <;> cases s <;> ext <;>
    simp [Frame.middle, Frame.mirror, Side.mirror, Side.isHorizontal, Side.opposite,
      Point.mirror] <;> ring

theorem Side.opposite_mirror (axis : Axis) (s : Side) :
    (s.mirror axis).opposite = s.opposite.mirror axis := by
  cases axis <;> cases s <;> rfl

/-- Only one side faces from a point to another. -/
theorem Side.Faces.unique {s t : Side} {p q : Point Rat} (hs : s.Faces p q) (ht : t.Faces p q) :
    s = t := by
  have hsame : s.isHorizontal = t.isHorizontal := by
    rw [Bool.eq_iff_iff, hs.isHorizontal_iff, ht.isHorizontal_iff]
  have hspos := hs.advance_pos
  have htpos := ht.advance_pos
  cases s <;> cases t <;> first
    | rfl
    | exact absurd hsame (by decide)
    | (simp only [Side.advance] at hspos htpos
       linarith)

theorem Side.isHorizontal_mirror (axis : Axis) (s : Side) :
    (s.mirror axis).isHorizontal = s.isHorizontal := by
  cases axis <;> cases s <;> rfl

/-- A reflection keeps distances, out of a side or along an axis. -/
theorem Side.advance_mirror (axis : Axis) (e : Extent Rat) (s : Side) (p q : Point Rat) :
    (s.mirror axis).advance (p.mirror axis e) (q.mirror axis e) = s.advance p q := by
  cases axis <;> cases s <;>
    simp [Side.mirror, Side.isHorizontal, Side.opposite, Side.advance, Point.mirror]

theorem Point.abs_x_mirror (axis : Axis) (e : Extent Rat) (p q : Point Rat) :
    |(q.mirror axis e).x - (p.mirror axis e).x| = |q.x - p.x| := by
  cases axis with
  | vertical => rw [Point.mirror, Point.mirror, sub_sub_sub_cancel_left, abs_sub_comm]
  | horizontal => rfl

theorem Point.abs_y_mirror (axis : Axis) (e : Extent Rat) (p q : Point Rat) :
    |(q.mirror axis e).y - (p.mirror axis e).y| = |q.y - p.y| := by
  cases axis with
  | vertical => rfl
  | horizontal => rw [Point.mirror, Point.mirror, sub_sub_sub_cancel_left, abs_sub_comm]

theorem Side.Faces.mirror {s : Side} {p q : Point Rat} (h : s.Faces p q) (axis : Axis)
    (e : Extent Rat) : (s.mirror axis).Faces (p.mirror axis e) (q.mirror axis e) := by
  constructor
  · rw [Side.advance_mirror]
    exact h.advance_pos
  · rw [Side.isHorizontal_mirror, Point.abs_x_mirror, Point.abs_y_mirror]
    exact h.isHorizontal_iff

theorem Point.mirror_ne {p q : Point Rat} (h : p ≠ q) (axis : Axis) (e : Extent Rat) :
    p.mirror axis e ≠ q.mirror axis e := by
  intro he
  have hx := congrArg Point.x he
  have hy := congrArg Point.y he
  cases axis <;> simp only [Point.mirror] at hx hy <;>
    exact h (Point.ext (by linarith) (by linarith))

/-- An arrow in a picture reflected about a centre line. -/
def Arrow.mirror (axis : Axis) (e : Extent Rat) (a : Arrow Rat) : Arrow Rat :=
  { a with start := a.start.mirror axis e, finish := a.finish.mirror axis e }

namespace Flow

open Coordinate

theorem connection_mirror {p q : Point Rat} (h : p ≠ q) (axis : Axis) (e size : Extent Rat)
    (style : List Char) :
    connection (p.mirror axis e) (q.mirror axis e) size style =
      (connection p q size style).mirror axis e := by
  have hfacing : Side.facing (p.mirror axis e) (q.mirror axis e) = (Side.facing p q).mirror axis :=
    (Side.faces_facing (Point.mirror_ne h axis e)).unique ((Side.faces_facing h).mirror axis e)
  rw [connection_eq, connection_eq, hfacing, frame_mirror, frame_mirror, Side.opposite_mirror,
    Frame.middle_mirror, Frame.middle_mirror]
  rfl

/-! ## Reflected cells -/

namespace Grid

variable {g : Grid} {count : Nat}

theorem center_left (h : g.Fits count) {i : Nat} (hi : i < count) :
    ((g.cell .left i).center : Point Rat) =
      (g.cell .right i).center.mirror .vertical g.extent := by
  have hlt : (g.cell .right i).column < g.columns := cell_column_lt h .right hi
  have hcell : g.cell .left i = ⟨g.columns - 1 - (g.cell .right i).column, (g.cell .right i).row⟩ :=
    rfl
  rw [hcell]
  generalize g.cell .right i = c at hlt ⊢
  ext
  · rw [Cell.x_center, Point.mirror, width_extent h.columns_pos, Cell.x_center,
      Nat.cast_sub (by omega), Nat.cast_pred h.columns_pos]
    ring
  · rw [Cell.y_center, Point.mirror, Cell.y_center]

theorem center_up (h : g.Fits count) {i : Nat} (hi : i < count) :
    ((g.cell .up i).center : Point Rat) =
      (g.cell .down i).center.mirror .horizontal g.extent := by
  have hlt : (g.cell .down i).row < g.rows := cell_row_lt h .down hi
  have hcell : g.cell .up i = ⟨(g.cell .down i).column, g.rows - 1 - (g.cell .down i).row⟩ := rfl
  rw [hcell]
  generalize g.cell .down i = c at hlt ⊢
  ext
  · rw [Cell.x_center, Point.mirror, Cell.x_center]
  · rw [Cell.y_center, Point.mirror, height_extent h.rows_pos, Cell.y_center,
      Nat.cast_sub (by omega), Nat.cast_pred h.rows_pos]
    ring

end Grid

/-! ## Reflected layouts -/

/-- A layout is the mirror image of another one: the pictures have the same extent, and the frame of
each box and each arrow is the reflection of the one at the same place. -/
structure Layout.IsMirror (axis : Axis) (l m : Layout Rat) : Prop where
  extent_eq : m.extent = l.extent
  boxes_eq : m.nodes.map (fun n => (n.id, n.box.figure, n.box.frame)) =
    l.nodes.map fun n => (n.id, n.box.figure, n.box.frame.mirror axis l.extent)
  arrows_eq : m.arrows = l.arrows.map (Arrow.mirror axis l.extent)

namespace Chart

variable {c : Chart} {d d' : Direction} {axis : Axis}

/-- If the cells of two directions are reflections of each other, so are the layouts. -/
theorem IsClosed.isMirror (h : c.IsClosed)
    (hcenter : ∀ i < c.nodes.length, ((c.grid.cell d' i).center : Point Rat) =
      (c.grid.cell d i).center.mirror axis c.grid.extent)
    {l m : Layout Rat} (hl : c.layout d = .ok l) (hm : c.layout d' = .ok m) :
    l.IsMirror axis m := by
  obtain ⟨-, hnodes, hextent⟩ := layout_eq_ok_iff.mp hl
  obtain ⟨harrows', hnodes', hextent'⟩ := layout_eq_ok_iff.mp hm
  refine ⟨hextent'.trans hextent.symm, ?_, ?_⟩
  · rw [hnodes, hnodes', hextent]
    refine List.ext_getElem (by simp) fun i hi hi' => ?_
    have hlt : i < c.nodes.length := by simpa using hi
    rw [List.getElem_map, List.getElem_map, getElem_placedNodes c d hlt,
      getElem_placedNodes c d' hlt]
    simp only [Placed.frame, hcenter i hlt, frame_mirror]
  -- the reflected arrows are a layout of the edges too, and there is only one
  · have hmirror : List.Forall₂ (fun e a => c.arrow d' e = .ok a) c.drawnEdges
        (l.arrows.map (Arrow.mirror axis l.extent)) := by
      rw [List.forall₂_map_right_iff]
      refine (forall₂_arrows hl).imp fun e a hea => ?_
      obtain ⟨i, j, hi, hj, -, -, hcells⟩ := h.exists_cells hea.1
      obtain ⟨hcell, ha⟩ := hcells d
      have hne : ((c.grid.cell d i).center : Point Rat) ≠ (c.grid.cell d j).center :=
        fun he => hcell (Cell.center_injective he)
      rw [(hcells d').2, hcenter i hi, hcenter j hj, connection_mirror hne, hextent,
        Except.ok.inj (hea.2.symm.trans ha)]
    have hsame := (mapM_eq_ok_iff.mpr harrows').symm.trans (mapM_eq_ok_iff.mpr hmirror)
    exact Except.ok.inj hsame

end Chart

/-! ## Reading order -/

theorem Cell.x_center_lt {a b : Cell} (h : a.column < b.column) :
    (a.center : Point Rat).x < (b.center : Point Rat).x := by
  have hcast : (a.column : Rat) < b.column := by exact_mod_cast h
  rw [x_center, x_center]
  linarith

theorem Cell.y_center_lt {a b : Cell} (h : a.row < b.row) :
    (a.center : Point Rat).y < (b.center : Point Rat).y := by
  have hcast : (a.row : Rat) < b.row := by exact_mod_cast h
  rw [y_center, y_center]
  linarith

namespace Chart

/-- Downwards, each node is in a row above the next ones, or in their row to the left of them. -/
theorem pairwise_down (c : Chart) : (c.placedNodes .down : List (PlacedNode Rat)).Pairwise
    fun m n => m.box.position.y < n.box.position.y ∨
      m.box.position.y = n.box.position.y ∧ m.box.position.x < n.box.position.x := by
  refine pairwise_placedNodes fun i j _ _ hij => ?_
  rcases c.grid.cell_down_lex hij with hrow | ⟨hrow, hcolumn⟩
  · exact Or.inl (Cell.y_center_lt hrow)
  · refine Or.inr ⟨?_, Cell.x_center_lt hcolumn⟩
    simp only [Cell.y_center, hrow]

/-- To the right, each node is in a column before the next ones, or in their column above them. -/
theorem pairwise_right (c : Chart) : (c.placedNodes .right : List (PlacedNode Rat)).Pairwise
    fun m n => m.box.position.x < n.box.position.x ∨
      m.box.position.x = n.box.position.x ∧ m.box.position.y < n.box.position.y := by
  refine pairwise_placedNodes fun i j hi hj hij => ?_
  have hf : c.grid.Fits c.nodes.length := Grid.fits_ofCount (by omega)
  rcases Grid.cell_right_lex hf hij hj with hcolumn | ⟨hcolumn, hrow⟩
  · exact Or.inl (Cell.x_center_lt hcolumn)
  · refine Or.inr ⟨?_, Cell.y_center_lt hrow⟩
    simp only [Cell.x_center, hcolumn]

/-- The layouts of every chart that is described by mentions: each has the boxes of the nodes in their
order, and the arrows of the edges that are no loops in theirs. Upwards it is the mirror image of
downwards, and to the left that of to the right. Downwards, the nodes are read row by row from the
left, and to the right, column by column from the top. -/
theorem exists_layout_isMirror (history : List Mention) :
    ∃ layout : Direction → Layout Rat,
      (∀ d, (ofMentions history).layout d = .ok (layout d)) ∧
      (∀ d, (layout d).nodes.map (fun n => (n.id, n.box.figure)) =
        (ofMentions history).nodes.map fun n => (n.id, n.box)) ∧
      (∀ d, List.Forall₂ (layout d).Draws
        ((ofMentions history).edges.filter fun e => e.source ≠ e.target) (layout d).arrows) ∧
      (layout .down).IsMirror .horizontal (layout .up) ∧
      (layout .right).IsMirror .vertical (layout .left) ∧
      ((layout .down).nodes.Pairwise fun m n => m.box.position.y < n.box.position.y ∨
        m.box.position.y = n.box.position.y ∧ m.box.position.x < n.box.position.x) ∧
      ((layout .right).nodes.Pairwise fun m n => m.box.position.x < n.box.position.x ∨
        m.box.position.x = n.box.position.x ∧ m.box.position.y < n.box.position.y) := by
  have h := isClosed_ofMentions history
  choose layout hlayout using fun d => h.exists_layout (α := Rat) d
  refine ⟨layout, hlayout, fun d => boxes_of_layout (hlayout d),
    fun d => h.forall₂_draws (hlayout d), ?_, ?_, ?_, ?_⟩
  · refine h.isMirror (fun i hi => ?_) (hlayout .down) (hlayout .up)
    exact Grid.center_up (Grid.fits_ofCount (by omega)) hi
  · refine h.isMirror (fun i hi => ?_) (hlayout .right) (hlayout .left)
    exact Grid.center_left (Grid.fits_ofCount (by omega)) hi
  · obtain ⟨-, hnodes, -⟩ := layout_eq_ok_iff.mp (hlayout .down)
    rw [hnodes]
    exact pairwise_down _
  · obtain ⟨-, hnodes, -⟩ := layout_eq_ok_iff.mp (hlayout .right)
    rw [hnodes]
    exact pairwise_right _

end Chart

end Flow

end TextDiagram
