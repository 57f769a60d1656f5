import Mathlib.Algebra.Order.Ring.Nat
import Mathlib.Tactic.Common
import TextDiagram.Flow.Grid

/-!
# The cells of a grid

A grid that fits a count has its last row and its last column begun (`Grid.Fits`), however far the
count falls short of the square. All else about its cells follows from that: a node is known by its
cell (`number_fill`), so that no two nodes share one (`cell_injOn`), the cells lie on the grid
(`cell_column_lt`, `cell_row_lt`), and no column and no row is empty (`exists_cell_column`,
`exists_cell_row`).
-/

namespace TextDiagram.Flow

attribute [ext] Cell

/-! ## The least side -/

theorem le_leastSide (count steps side : Nat) : side ≤ leastSide count steps side := by
  induction steps generalizing side with
  | zero => exact Nat.le_refl side
  | succ steps ih =>
    unfold leastSide
    split
    · exact Nat.le_trans (Nat.le_succ side) (ih (side + 1))
    · exact Nat.le_refl side

/-- The square of the side before the least one is too small, if it is before the search. -/
theorem pred_leastSide_mul_self_lt {count steps side : Nat}
    (h : (side - 1) * (side - 1) < count) :
    (leastSide count steps side - 1) * (leastSide count steps side - 1) < count := by
  induction steps generalizing side with
  | zero => exact h
  | succ steps ih =>
    unfold leastSide
    split
    · next hside => exact ih hside
    · exact h

namespace Grid

/-! ## Grids that fit -/

/-- A grid fits a count: it has a cell for each node, and its last row and its last column are
begun. -/
structure Fits (g : Grid) (count : Nat) : Prop where
  columns_pos : 0 < g.columns
  rows_pos : 0 < g.rows
  count_le : count ≤ g.columns * g.rows
  rows_least : g.columns * (g.rows - 1) < count
  columns_least : (g.columns - 1) * g.rows < count

/-- A grid whose last row is begun is a square or has fewer rows than columns, if the square of the
columns holds the count. -/
theorem rows_le_columns {count columns rows : Nat} (hle : count ≤ columns * columns)
    (hleast : columns * (rows - 1) < count) : rows ≤ columns := by
  by_contra h
  have hmul : columns * columns ≤ columns * (rows - 1) := Nat.mul_le_mul_left columns (by omega)
  omega

/-- A count between two squares fits on as many columns as the greater square has, with as many rows
as it fills. -/
theorem fits_of_square {count columns : Nat} (hpos : 0 < columns)
    (hle : count ≤ columns * columns) (hlt : (columns - 1) * (columns - 1) < count) :
    (Grid.mk columns ((count + columns - 1) / columns)).Fits count := by
  have hdiv := Nat.div_add_mod (count + columns - 1) columns
  have hmod := Nat.mod_lt (count + columns - 1) hpos
  generalize (count + columns - 1) / columns = rows at hdiv ⊢
  generalize (count + columns - 1) % columns = rest at hdiv hmod
  have hrows : 0 < rows := by
    rcases Nat.eq_zero_or_pos rows with rfl | h
    · omega
    · exact h
  have hpred : columns * (rows - 1) + columns = columns * rows := by
    rw [← Nat.mul_succ, Nat.succ_eq_add_one, Nat.sub_add_cancel hrows]
  have hleast : columns * (rows - 1) < count := by omega
  refine ⟨hpos, hrows, by show count ≤ columns * rows; omega, hleast, ?_⟩
  show (columns - 1) * rows < count
  rcases Nat.lt_or_eq_of_le (rows_le_columns hle hleast) with h | h
  · have hmul : (columns - 1) * rows ≤ (columns - 1) * (columns - 1) :=
      Nat.mul_le_mul_left (columns - 1) (by omega)
    omega
  · rw [h] at hleast ⊢
    rwa [Nat.mul_comm]

theorem fits_ofCount {count : Nat} (h : 0 < count) : (ofCount count).Fits count := by
  have hle := le_columns_mul_self count
  unfold ofCount at hle ⊢
  rw [if_neg (Nat.ne_of_gt h)] at hle ⊢
  exact fits_of_square (le_leastSide count count 1) hle (pred_leastSide_mul_self_lt h)

/-! ## Numbering -/

/-- The number of the node that fills a cell. -/
def number (g : Grid) (d : Direction) (c : Cell) : Nat :=
  if d.isHorizontal && 1 < g.rows then g.rows * c.column + c.row else g.columns * c.row + c.column

variable {g : Grid} {count : Nat}

theorem number_fill (g : Grid) (d : Direction) (i : Nat) : g.number d (g.fill d i) = i := by
  unfold number fill
  split
  · exact Nat.div_add_mod i g.rows
  · exact Nat.div_add_mod i g.columns

theorem fill_column_lt (h : g.Fits count) (d : Direction) {i : Nat} (hi : i < count) :
    (g.fill d i).column < g.columns := by
  unfold fill
  split
  · have hlt : i < g.columns * g.rows := Nat.lt_of_lt_of_le hi h.count_le
    exact Nat.div_lt_of_lt_mul (by rwa [Nat.mul_comm])
  · exact Nat.mod_lt i h.columns_pos

theorem fill_row_lt (h : g.Fits count) (d : Direction) {i : Nat} (hi : i < count) :
    (g.fill d i).row < g.rows := by
  unfold fill
  split
  · exact Nat.mod_lt i h.rows_pos
  · exact Nat.div_lt_of_lt_mul (Nat.lt_of_lt_of_le hi h.count_le)

/-- A reflection takes the cells of a grid to cells of the grid, and back. -/
theorem reflect_reflect (d : Direction) {c : Cell} (hc : c.column < g.columns)
    (hr : c.row < g.rows) : g.reflect d (g.reflect d c) = c := by
  obtain ⟨column, row⟩ := c
  simp only at hc hr
  cases d with
  | down => rfl
  | right => rfl
  | up =>
    have htwice : g.rows - 1 - (g.rows - 1 - row) = row := by omega
    simp only [reflect, htwice]
  | left =>
    have htwice : g.columns - 1 - (g.columns - 1 - column) = column := by omega
    simp only [reflect, htwice]

theorem reflect_lt (d : Direction) {c : Cell} (hc : c.column < g.columns) (hr : c.row < g.rows) :
    (g.reflect d c).column < g.columns ∧ (g.reflect d c).row < g.rows := by
  cases d with
  | down => exact ⟨hc, hr⟩
  | right => exact ⟨hc, hr⟩
  | up =>
    refine ⟨hc, ?_⟩
    show g.rows - 1 - c.row < g.rows
    omega
  | left =>
    refine ⟨?_, hr⟩
    show g.columns - 1 - c.column < g.columns
    omega

/-! ## Cells of nodes -/

theorem cell_column_lt (h : g.Fits count) (d : Direction) {i : Nat} (hi : i < count) :
    (g.cell d i).column < g.columns :=
  (reflect_lt d (fill_column_lt h d hi) (fill_row_lt h d hi)).1

theorem cell_row_lt (h : g.Fits count) (d : Direction) {i : Nat} (hi : i < count) :
    (g.cell d i).row < g.rows :=
  (reflect_lt d (fill_column_lt h d hi) (fill_row_lt h d hi)).2

/-- No two nodes share a cell. -/
theorem cell_injOn (h : g.Fits count) (d : Direction) {i j : Nat} (hi : i < count) (hj : j < count)
    (hij : g.cell d i = g.cell d j) : i = j := by
  have hreflect : ∀ k < count, g.reflect d (g.cell d k) = g.fill d k := fun k hk =>
    reflect_reflect d (fill_column_lt h d hk) (fill_row_lt h d hk)
  have hfill : g.fill d i = g.fill d j := by rw [← hreflect i hi, ← hreflect j hj, hij]
  rw [← number_fill g d i, ← number_fill g d j, hfill]

theorem exists_fill_column (h : g.Fits count) (d : Direction) {column : Nat}
    (hc : column < g.columns) : ∃ i < count, (g.fill d i).column = column := by
  have hle : column * g.rows ≤ (g.columns - 1) * g.rows :=
    Nat.mul_le_mul_right g.rows (by omega)
  have hfirst : column ≤ column * g.rows := Nat.le_mul_of_pos_right column h.rows_pos
  have hlast := h.columns_least
  unfold fill
  split
  -- the first node of the column, which is not after the one of the last column
  · exact ⟨column * g.rows, by omega, Nat.mul_div_cancel column h.rows_pos⟩
  · exact ⟨column, by omega, Nat.mod_eq_of_lt hc⟩

theorem exists_fill_row (h : g.Fits count) (d : Direction) {row : Nat} (hr : row < g.rows) :
    ∃ i < count, (g.fill d i).row = row := by
  have hle : g.columns * row ≤ g.columns * (g.rows - 1) :=
    Nat.mul_le_mul_left g.columns (by omega)
  have hfirst : row ≤ g.columns * row := Nat.le_mul_of_pos_left row h.columns_pos
  have hlast := h.rows_least
  unfold fill
  split
  · exact ⟨row, by omega, Nat.mod_eq_of_lt hr⟩
  · exact ⟨g.columns * row, by omega, Nat.mul_div_cancel_left row h.columns_pos⟩

/-- No column of the grid is empty. -/
theorem exists_cell_column (h : g.Fits count) (d : Direction) {column : Nat}
    (hc : column < g.columns) : ∃ i < count, (g.cell d i).column = column := by
  unfold cell reflect
  cases d with
  | down => exact exists_fill_column h .down hc
  | up => exact exists_fill_column h .up hc
  | right => exact exists_fill_column h .right hc
  | left =>
    have hacross : g.columns - 1 - column < g.columns := by omega
    obtain ⟨i, hi, he⟩ := exists_fill_column h .left hacross
    exact ⟨i, hi, by simp only [he]; omega⟩

/-- No row of the grid is empty. -/
theorem exists_cell_row (h : g.Fits count) (d : Direction) {row : Nat} (hr : row < g.rows) :
    ∃ i < count, (g.cell d i).row = row := by
  unfold cell reflect
  cases d with
  | down => exact exists_fill_row h .down hr
  | right => exact exists_fill_row h .right hr
  | left => exact exists_fill_row h .left hr
  | up =>
    have hacross : g.rows - 1 - row < g.rows := by omega
    obtain ⟨i, hi, he⟩ := exists_fill_row h .up hacross
    exact ⟨i, hi, by simp only [he]; omega⟩

/-! ## Reading order -/

/-- Numbers in order have quotients in order, and where these agree, remainders in order. -/
theorem div_lt_or_mod_lt {i j : Nat} (m : Nat) (h : i < j) :
    i / m < j / m ∨ i / m = j / m ∧ i % m < j % m := by
  rcases Nat.lt_or_eq_of_le (Nat.div_le_div_right (c := m) (Nat.le_of_lt h)) with hlt | heq
  · exact Or.inl hlt
  · have hi := Nat.div_add_mod i m
    have hj := Nat.div_add_mod j m
    rw [heq] at hi
    exact Or.inr ⟨heq, by omega⟩

/-- Downwards, the nodes are in order row by row. -/
theorem cell_down_lex (g : Grid) {i j : Nat} (h : i < j) :
    (g.cell .down i).row < (g.cell .down j).row ∨
      (g.cell .down i).row = (g.cell .down j).row ∧
        (g.cell .down i).column < (g.cell .down j).column :=
  div_lt_or_mod_lt g.columns h

/-- To the right, the nodes are in order column by column. -/
theorem cell_right_lex (h : g.Fits count) {i j : Nat} (hij : i < j) (hj : j < count) :
    (g.cell .right i).column < (g.cell .right j).column ∨
      (g.cell .right i).column = (g.cell .right j).column ∧
        (g.cell .right i).row < (g.cell .right j).row := by
  unfold cell reflect fill
  by_cases hrows : 1 < g.rows
  · simp only [Direction.isHorizontal, hrows, decide_true, Bool.and_true, if_true]
    exact div_lt_or_mod_lt g.rows hij
  -- a single row is filled along the row, so each node begins a column
  · have hone : g.rows = 1 := by
      have := h.rows_pos
      omega
    have hle : count ≤ g.columns := by
      have := h.count_le
      rwa [hone, Nat.mul_one] at this
    simp only [hrows, decide_false, Bool.and_false, Bool.false_eq_true, if_false]
    rw [Nat.mod_eq_of_lt (by omega), Nat.mod_eq_of_lt (by omega)]
    exact Or.inl hij

end Grid

end TextDiagram.Flow
