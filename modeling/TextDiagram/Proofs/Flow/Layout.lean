import TextDiagram.Flow.Layout
import TextDiagram.Proofs.Except
import TextDiagram.Proofs.Flow.Grid
import TextDiagram.Proofs.Flow.History
import TextDiagram.Proofs.Keys
import TextDiagram.Proofs.Plane

/-!
# Boxes on a grid

The layout of a closed chart succeeds (`exists_layout`): each end of an edge is found at its place
among the nodes (`arrow_eq_ok`). Main statement: the boxes of a chart that is not empty are spread
over the picture, without overlap and without an empty row or column
(`exists_layout_isSpread`).
-/

namespace TextDiagram.Flow

open Coordinate

namespace Chart

/-! ## The steps of a layout -/

theorem IsClosed.index?_eq_some {c : Chart} (h : c.IsClosed) {i : Nat} (hi : i < c.nodes.length) :
    c.index? c.nodes[i].id = some i :=
  findIdx?_key h.nodup hi

variable {α : Type} [Coordinate α]

@[simp] theorem length_placedNodes (c : Chart) (d : Direction) :
    (c.placedNodes d : List (PlacedNode α)).length = c.nodes.length := by
  simp [placedNodes]

theorem getElem_placedNodes (c : Chart) (d : Direction) {i : Nat} (hi : i < c.nodes.length)
    (hp : i < (c.placedNodes d : List (PlacedNode α)).length) :
    (c.placedNodes d)[i] =
      ⟨c.nodes[i].id, ⟨c.nodes[i].box, (c.grid.cell d i).center⟩⟩ := by
  simp [placedNodes]

/-- The boxes of a layout are those of the nodes, in order. -/
theorem boxes_placedNodes (c : Chart) (d : Direction) :
    (c.placedNodes d).map (fun n : PlacedNode α => (n.id, n.box.figure)) =
      c.nodes.map fun n => (n.id, n.box) := by
  refine List.ext_getElem (by simp) fun i _ hi => ?_
  have hlt : i < c.nodes.length := by simpa using hi
  rw [List.getElem_map, List.getElem_map, getElem_placedNodes c d hlt]

/-- Boxes are related in order if the boxes of nodes in order are. -/
theorem pairwise_placedNodes {c : Chart} {d : Direction} {R : PlacedNode α → PlacedNode α → Prop}
    (h : ∀ i j (hi : i < c.nodes.length) (hj : j < c.nodes.length), i < j →
      R ⟨c.nodes[i].id, ⟨c.nodes[i].box, (c.grid.cell d i).center⟩⟩
        ⟨c.nodes[j].id, ⟨c.nodes[j].box, (c.grid.cell d j).center⟩⟩) :
    (c.placedNodes d).Pairwise R := by
  refine List.pairwise_iff_getElem.mpr fun i j hpi hpj hij => ?_
  have hi : i < c.nodes.length := by simpa using hpi
  have hj : j < c.nodes.length := by simpa using hpj
  rw [getElem_placedNodes c d hi, getElem_placedNodes c d hj]
  exact h i j hi hj hij

/-- Nodes and boxes are related in order if each node is to its box. -/
theorem forall₂_placedNodes {c : Chart} {d : Direction} {R : Node → PlacedNode α → Prop}
    (h : ∀ i (hi : i < c.nodes.length),
      R c.nodes[i] ⟨c.nodes[i].id, ⟨c.nodes[i].box, (c.grid.cell d i).center⟩⟩) :
    List.Forall₂ R c.nodes (c.placedNodes d) := by
  refine List.forall₂_iff_get.mpr ⟨by simp, fun i hi hpi => ?_⟩
  rw [List.get_eq_getElem, List.get_eq_getElem, getElem_placedNodes c d hi]
  exact h i hi

/-- The arrow of an edge of a closed chart connects the middles of two cells, in each direction. -/
theorem IsClosed.arrow_eq_ok {c : Chart} (h : c.IsClosed) {e : Edge} (he : e ∈ c.edges) :
    ∃ i j, ∃ (hi : i < c.nodes.length) (hj : j < c.nodes.length),
      c.nodes[i].id = e.source ∧ c.nodes[j].id = e.target ∧
      ∀ d, c.arrow d e = .ok (connection (c.grid.cell d i).center (c.grid.cell d j).center
        (boxExtent : Extent α) "pn-mermaid-edge".toList) := by
  obtain ⟨hsource, htarget⟩ := h.ends e he
  obtain ⟨i, hi, hid⟩ := exists_getElem_of_mem_keys hsource
  obtain ⟨j, hj, hjd⟩ := exists_getElem_of_mem_keys htarget
  refine ⟨i, j, hi, hj, hid, hjd, fun d => ?_⟩
  unfold arrow center?
  rw [← hid, ← hjd, h.index?_eq_some hi, h.index?_eq_some hj]
  rfl

/-- A layout consists of the boxes of the nodes and the arrows of the edges that are drawn. -/
theorem layout_eq_ok_iff {c : Chart} {d : Direction} {l : Layout α} :
    c.layout d = .ok l ↔ List.Forall₂ (fun e a => c.arrow d e = .ok a) c.drawnEdges l.arrows ∧
      l.nodes = c.placedNodes d ∧ l.extent = c.grid.extent := by
  unfold layout
  simp only [bind_eq_ok_iff, mapM_eq_ok_iff]
  constructor
  · rintro ⟨arrows, harrows, hl⟩
    rw [← Except.ok.inj hl]
    exact ⟨harrows, rfl, rfl⟩
  · rintro ⟨harrows, hnodes, hextent⟩
    refine ⟨l.arrows, harrows, ?_⟩
    rw [← hnodes, ← hextent]
    rfl

/-- The arrows of a layout, each with the edge that it is for. -/
theorem forall₂_arrows {c : Chart} {d : Direction} {l : Layout α} (hl : c.layout d = .ok l) :
    List.Forall₂ (fun e a => e ∈ c.drawnEdges ∧ c.arrow d e = .ok a) c.drawnEdges l.arrows :=
  (List.forall₂_and_left _ _).mpr ⟨fun _ he => he, (layout_eq_ok_iff.mp hl).1⟩

theorem IsClosed.exists_layout {c : Chart} (h : c.IsClosed) (d : Direction) :
    ∃ l : Layout α, c.layout d = .ok l := by
  have harrows : ∀ e ∈ c.drawnEdges, ∃ a : Arrow α, c.arrow d e = .ok a := by
    intro e he
    obtain ⟨_, _, _, _, _, _, ha⟩ := h.arrow_eq_ok (α := α) (List.mem_of_mem_filter he)
    exact ⟨_, ha d⟩
  obtain ⟨arrows, ha⟩ := exists_mapM_eq_ok harrows
  exact ⟨⟨c.placedNodes d, arrows, c.grid.extent⟩,
    layout_eq_ok_iff.mpr ⟨mapM_eq_ok_iff.mp ha, rfl, rfl⟩⟩

end Chart

/-! ## Cells on the rational plane -/

namespace Cell

variable (c : Cell)

@[simp] theorem x_center : (c.center : Point Rat).x = 112 + 212 * c.column := by
  simp only [center, whole_rat, half_rat, padding, boxWidth, columnGap]
  push_cast
  ring

@[simp] theorem y_center : (c.center : Point Rat).y = 56 + 90 * c.row := by
  simp only [center, whole_rat, half_rat, padding, boxHeight, rowGap]
  push_cast
  ring

/-- The frame of the box in a cell. -/
def frame (c : Cell) : Frame Rat := c.center.frame boxExtent

@[simp] theorem left_frame : c.frame.left = 28 + 212 * c.column := by
  simp only [frame, TextDiagram.left_frame, x_center, boxExtent, whole_rat, boxWidth]
  push_cast
  ring

@[simp] theorem right_frame : c.frame.right = 196 + 212 * c.column := by
  simp only [frame, TextDiagram.right_frame, x_center, boxExtent, whole_rat, boxWidth]
  push_cast
  ring

@[simp] theorem top_frame : c.frame.top = 28 + 90 * c.row := by
  simp only [frame, TextDiagram.top_frame, y_center, boxExtent, whole_rat, boxHeight]
  push_cast
  ring

@[simp] theorem bottom_frame : c.frame.bottom = 84 + 90 * c.row := by
  simp only [frame, TextDiagram.bottom_frame, y_center, boxExtent, whole_rat, boxHeight]
  push_cast
  ring

/-- Boxes in different cells are apart by a gap between columns or between rows. -/
theorem apart_frame {a b : Cell} (h : a ≠ b) : Frame.Apart 44 34 a.frame b.frame := by
  have hgap : ∀ {i j : Nat}, i < j → (i : Rat) + 1 ≤ j := fun hij => by exact_mod_cast hij
  unfold Frame.Apart
  simp only [left_frame, right_frame, top_frame, bottom_frame]
  rcases Nat.lt_trichotomy a.column b.column with hlt | heq | hgt
  · have := hgap hlt
    left
    linarith
  · rcases Nat.lt_trichotomy a.row b.row with hlt | hrow | hgt
    · have := hgap hlt
      right; right; left
      linarith
    · exact absurd (by cases a; cases b; simp_all) h
    · have := hgap hgt
      right; right; right
      linarith
  · have := hgap hgt
    right; left
    linarith

end Cell

namespace Grid

variable {g : Grid}

theorem width_extent (h : 0 < g.columns) :
    (g.extent : Extent Rat).width = 12 + 212 * g.columns := by
  obtain ⟨k, hk⟩ : ∃ k, g.columns = k + 1 := ⟨g.columns - 1, by omega⟩
  simp only [extent, span, hk, Nat.succ_ne_zero, if_false, Nat.add_sub_cancel, whole_rat, padding,
    boxWidth, columnGap]
  push_cast
  ring

theorem height_extent (h : 0 < g.rows) :
    (g.extent : Extent Rat).height = 22 + 90 * g.rows := by
  obtain ⟨k, hk⟩ : ∃ k, g.rows = k + 1 := ⟨g.rows - 1, by omega⟩
  simp only [extent, span, hk, Nat.succ_ne_zero, if_false, Nat.add_sub_cancel, whole_rat, padding,
    boxHeight, rowGap]
  push_cast
  ring

/-- The padding of the picture is met by the last column and the last row. -/
theorem right_inset (h : 0 < g.columns) :
    ((g.extent : Extent Rat).inset 28).right = 196 + 212 * ((g.columns - 1 : Nat) : Rat) := by
  rw [Extent.inset, width_extent h, Nat.cast_pred h]
  ring

theorem bottom_inset (h : 0 < g.rows) :
    ((g.extent : Extent Rat).inset 28).bottom = 84 + 90 * ((g.rows - 1 : Nat) : Rat) := by
  rw [Extent.inset, height_extent h, Nat.cast_pred h]
  ring

/-- A box in a cell of a grid lies within the picture, less the padding. -/
theorem frame_within {c : Cell} (hc : c.column < g.columns) (hr : c.row < g.rows) :
    c.frame.Within (g.extent.inset 28) := by
  have hcolumn : (c.column : Rat) ≤ ((g.columns - 1 : Nat) : Rat) := by
    exact_mod_cast Nat.le_sub_one_of_lt hc
  have hrow : (c.row : Rat) ≤ ((g.rows - 1 : Nat) : Rat) := by
    exact_mod_cast Nat.le_sub_one_of_lt hr
  have hcolumn_nonneg : (0 : Rat) ≤ c.column := Nat.cast_nonneg _
  have hrow_nonneg : (0 : Rat) ≤ c.row := Nat.cast_nonneg _
  constructor
  · rw [Cell.left_frame, Extent.inset]
    linarith
  · rw [Cell.top_frame, Extent.inset]
    linarith
  · rw [Cell.right_frame, right_inset (by omega)]
    linarith
  · rw [Cell.bottom_frame, bottom_inset (by omega)]
    linarith

end Grid

/-! ## The boxes of a chart -/

namespace Chart

variable {c : Chart} {d : Direction} {l : Layout Rat}

/-- A box of a layout is the box in the cell of some node. -/
theorem exists_cell_of_mem (hl : c.layout d = .ok l) {n : PlacedNode Rat} (hn : n ∈ l.nodes) :
    ∃ i < c.nodes.length, n.box.frame = (c.grid.cell d i).frame := by
  obtain ⟨-, hnodes, -⟩ := layout_eq_ok_iff.mp hl
  rw [hnodes] at hn
  obtain ⟨i, hi, rfl⟩ := List.getElem_of_mem hn
  have hlt : i < c.nodes.length := by simpa using hi
  refine ⟨i, hlt, ?_⟩
  rw [getElem_placedNodes c d hlt]
  rfl

/-- A layout has the box in the cell of every node. -/
theorem exists_mem_of_lt (hl : c.layout d = .ok l) {i : Nat} (hi : i < c.nodes.length) :
    ∃ n ∈ l.nodes, n.box.frame = (c.grid.cell d i).frame := by
  obtain ⟨-, hnodes, -⟩ := layout_eq_ok_iff.mp hl
  have hlt : i < (c.placedNodes d : List (PlacedNode Rat)).length := by simpa using hi
  rw [hnodes]
  refine ⟨(c.placedNodes d)[i], List.getElem_mem hlt, ?_⟩
  rw [getElem_placedNodes c d hi]
  rfl

end Chart

/-- The boxes of a chart are spread over a picture: there is one of the given size for each node, in
the order of the nodes; they are apart by the gaps and keep the padding; and every column and row of
the grid has a box, so that the padding is met on all four sides. -/
structure Layout.IsSpread (l : Layout Rat) (c : Chart) : Prop where
  boxes : l.nodes.map (fun n => (n.id, n.box.figure)) = c.nodes.map fun n => (n.id, n.box)
  size : ∀ n ∈ l.nodes, n.box.frame.width = 168 ∧ n.box.frame.height = 56
  apart : l.nodes.Pairwise fun m n => Frame.Apart 44 34 m.box.frame n.box.frame
  inside : ∀ n ∈ l.nodes, n.box.frame.Within (l.extent.inset 28)
  columns : ∀ column < c.grid.columns, ∃ n ∈ l.nodes, n.box.frame.left = 28 + (168 + 44) * column
  rows : ∀ row < c.grid.rows, ∃ n ∈ l.nodes, n.box.frame.top = 28 + (56 + 34) * row
  left : ∃ n ∈ l.nodes, n.box.frame.left = (l.extent.inset 28).left
  top : ∃ n ∈ l.nodes, n.box.frame.top = (l.extent.inset 28).top
  right : ∃ n ∈ l.nodes, n.box.frame.right = (l.extent.inset 28).right
  bottom : ∃ n ∈ l.nodes, n.box.frame.bottom = (l.extent.inset 28).bottom

namespace Chart

variable {c : Chart} {d : Direction} {l : Layout Rat}

theorem exists_mem_column (hf : c.grid.Fits c.nodes.length) (hl : c.layout d = .ok l)
    {column : Nat} (h : column < c.grid.columns) : ∃ n ∈ l.nodes,
      n.box.frame.left = 28 + 212 * column ∧ n.box.frame.right = 196 + 212 * column := by
  obtain ⟨i, hi, hcolumn⟩ := Grid.exists_cell_column hf d h
  obtain ⟨n, hn, hframe⟩ := exists_mem_of_lt hl hi
  rw [← hcolumn, ← Cell.left_frame, ← Cell.right_frame]
  exact ⟨n, hn, by rw [hframe], by rw [hframe]⟩

theorem exists_mem_row (hf : c.grid.Fits c.nodes.length) (hl : c.layout d = .ok l)
    {row : Nat} (h : row < c.grid.rows) : ∃ n ∈ l.nodes,
      n.box.frame.top = 28 + 90 * row ∧ n.box.frame.bottom = 84 + 90 * row := by
  obtain ⟨i, hi, hrow⟩ := Grid.exists_cell_row hf d h
  obtain ⟨n, hn, hframe⟩ := exists_mem_of_lt hl hi
  rw [← hrow, ← Cell.top_frame, ← Cell.bottom_frame]
  exact ⟨n, hn, by rw [hframe], by rw [hframe]⟩

/-- No two boxes overlap: they are in different cells. -/
theorem pairwise_apart (hf : c.grid.Fits c.nodes.length) (hl : c.layout d = .ok l) :
    l.nodes.Pairwise fun m n => Frame.Apart 44 34 m.box.frame n.box.frame := by
  obtain ⟨-, hnodes, -⟩ := layout_eq_ok_iff.mp hl
  rw [hnodes]
  refine pairwise_placedNodes fun i j hi hj hij => ?_
  have hcell : c.grid.cell d i ≠ c.grid.cell d j := fun he =>
    Nat.ne_of_lt hij (Grid.cell_injOn hf d hi hj he)
  exact Cell.apart_frame hcell

/-- A layout has the boxes of the nodes, in the order of the nodes. -/
theorem boxes_of_layout (hl : c.layout d = .ok l) :
    l.nodes.map (fun n => (n.id, n.box.figure)) = c.nodes.map fun n => (n.id, n.box) := by
  obtain ⟨-, hnodes, -⟩ := layout_eq_ok_iff.mp hl
  rw [hnodes]
  exact boxes_placedNodes c d

/-- The layout of a chart that is not empty is spread over the picture. -/
theorem isSpread_of_layout (hne : c.nodes ≠ []) (hl : c.layout d = .ok l) : l.IsSpread c := by
  obtain ⟨-, hnodes, hextent⟩ := layout_eq_ok_iff.mp hl
  have hf : c.grid.Fits c.nodes.length := Grid.fits_ofCount (List.length_pos_of_ne_nil hne)
  constructor
  case boxes => exact boxes_of_layout hl
  case size =>
    intro n hn
    obtain ⟨i, -, hframe⟩ := exists_cell_of_mem hl hn
    rw [hframe]
    constructor
    · rw [Frame.width, Cell.left_frame, Cell.right_frame]
      ring
    · rw [Frame.height, Cell.top_frame, Cell.bottom_frame]
      ring
  case apart => exact pairwise_apart hf hl
  case inside =>
    intro n hn
    obtain ⟨i, hi, hframe⟩ := exists_cell_of_mem hl hn
    rw [hframe, hextent]
    exact Grid.frame_within (Grid.cell_column_lt hf d hi) (Grid.cell_row_lt hf d hi)
  case columns =>
    intro column hcolumn
    obtain ⟨n, hn, hleft, -⟩ := exists_mem_column hf hl hcolumn
    exact ⟨n, hn, by rw [hleft]; ring⟩
  case rows =>
    intro row hrow
    obtain ⟨n, hn, htop, -⟩ := exists_mem_row hf hl hrow
    exact ⟨n, hn, by rw [htop]; ring⟩
  -- the padding is met by the boxes of the first and of the last column and row
  case left =>
    obtain ⟨n, hn, hleft, -⟩ := exists_mem_column hf hl hf.columns_pos
    exact ⟨n, hn, by rw [hleft, Extent.inset]; norm_num⟩
  case top =>
    obtain ⟨n, hn, htop, -⟩ := exists_mem_row hf hl hf.rows_pos
    exact ⟨n, hn, by rw [htop, Extent.inset]; norm_num⟩
  case right =>
    obtain ⟨n, hn, -, hright⟩ := exists_mem_column hf hl (Nat.sub_lt hf.columns_pos Nat.one_pos)
    exact ⟨n, hn, by rw [hright, hextent, Grid.right_inset hf.columns_pos]⟩
  case bottom =>
    obtain ⟨n, hn, -, hbottom⟩ := exists_mem_row hf hl (Nat.sub_lt hf.rows_pos Nat.one_pos)
    exact ⟨n, hn, by rw [hbottom, hextent, Grid.bottom_inset hf.rows_pos]⟩

/-- Every chart that is described by mentions and is not empty can be laid out in each direction,
and its boxes are spread over the picture. -/
theorem exists_layout_isSpread (history : List Mention) (d : Direction)
    (h : (ofMentions history).nodes ≠ []) :
    ∃ l : Layout Rat, (ofMentions history).layout d = .ok l ∧ l.IsSpread (ofMentions history) := by
  obtain ⟨l, hl⟩ := (isClosed_ofMentions history).exists_layout (α := Rat) d
  exact ⟨l, hl, isSpread_of_layout h hl⟩

/-- A chart of seven nodes, which leaves two cells of its square empty. -/
def sevenNodes : List Mention :=
  [.edge ['A'] ['B'], .edge ['A'] ['C'], .edge ['B'] ['D'], .node ['E'] (some ['f']) .circle,
    .edge ['E'] ['G'], .edge ['G'] ['G'], .node ['H'] none .bare]

theorem exists_layout_isSpread_sevenNodes :
    (ofMentions sevenNodes).nodes ≠ [] ∧ ∃ l : Layout Rat,
      (ofMentions sevenNodes).layout .left = .ok l ∧ l.IsSpread (ofMentions sevenNodes) :=
  have h : (ofMentions sevenNodes).nodes ≠ [] := by decide
  ⟨h, exists_layout_isSpread sevenNodes .left h⟩

end Chart

end TextDiagram.Flow
