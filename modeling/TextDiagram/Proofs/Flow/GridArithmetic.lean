import Mathlib.Algebra.Order.Ring.Unbundled.Basic
import Mathlib.Tactic.Ring
import TextDiagram.Proofs.Flow.Grid

/-!
# The arithmetic of a grid

The numbers of columns and rows hold the count tightly (`Grid.IsTight`). They are found by trying one
side after the other. The search comes to an end and squares no side above twice the count
(`sideSearch_leastSide`), so that no square overflows on a machine whose numbers hold twice the
count. Where a node stands on its grid is found without a division by zero and without a difference
below zero (`Grid.cell?_eq_some`).
-/

namespace TextDiagram.Flow

/-! ## The search for the columns -/

/-- The sides are tried one after the other until the square of one holds the count, and no square
exceeds the greatest number that there is. -/
inductive SideSearch (greatest count : Nat) : (side result : Nat) → Prop
  /-- The square of the side holds the count. -/
  | found {side : Nat} (hfit : side * side ≤ greatest) (h : count ≤ side * side) :
      SideSearch greatest count side side
  /-- The square is too small, and the search goes on with the next side. -/
  | next {side result : Nat} (hfit : side * side ≤ greatest) (h : side * side < count)
      (hrest : SideSearch greatest count (side + 1) result) : SideSearch greatest count side result

/-- The square of a side is at most twice the count, if the square of the side before is too
small. -/
theorem mul_self_le_two_mul {count side : Nat} (h : (side - 1) * (side - 1) < count) :
    side * side ≤ 2 * count := by
  cases side with
  | zero => omega
  | succ k =>
    have hk : 2 * k ≤ k * k + 1 := by simpa [sq] using two_mul_le_add_sq k 1
    have hsq : (k + 1) * (k + 1) = k * k + 2 * k + 1 := by ring
    have hlt : k * k < count := h
    omega

/-- The search ends with the least side, if there are steps enough to find it. It squares no side
above twice the count. -/
theorem sideSearch_leastSide {greatest count steps side : Nat} (hgreatest : 2 * count ≤ greatest)
    (hcount : count ≤ steps + side) (hside : 1 ≤ side) (hlt : (side - 1) * (side - 1) < count) :
    SideSearch greatest count side (leastSide count steps side) := by
  have hfit := (mul_self_le_two_mul hlt).trans hgreatest
  induction steps generalizing side with
  | zero =>
    have hle : side ≤ side * side := Nat.le_mul_of_pos_left side hside
    exact .found hfit (by omega)
  | succ steps ih =>
    unfold leastSide
    split
    · next h =>
      have hnext : (side + 1 - 1) * (side + 1 - 1) < count := h
      have hnextfit := (mul_self_le_two_mul hnext).trans hgreatest
      exact .next hfit h (ih (by omega) (by omega) hnext hnextfit)
    · next h => exact .found hfit (Nat.le_of_not_lt h)

/-! ## Checked steps -/

/-- The quotient and the remainder of two numbers, if the divisor is not zero. -/
def divMod? (a b : Nat) : Option (Nat × Nat) :=
  if b = 0 then none else some (a / b, a % b)

/-- The difference of two numbers, if it is not below zero. -/
def minus? (a b : Nat) : Option Nat :=
  if b ≤ a then some (a - b) else none

theorem divMod?_of_pos {a b : Nat} (h : 0 < b) : divMod? a b = some (a / b, a % b) :=
  if_neg (Nat.ne_of_gt h)

theorem minus?_of_le {a b : Nat} (h : b ≤ a) : minus? a b = some (a - b) :=
  if_pos h

namespace Grid

/-! ## Tight grids -/

/-- The square of the columns holds the count, and with one column less it would not; the rows hold
the count, and with one row less they would not; there are as many rows as columns or one less. -/
structure IsTight (g : Grid) (count : Nat) : Prop where
  columns_pos : 0 < g.columns
  rows_pos : 0 < g.rows
  pred_columns_sq_lt : (g.columns - 1) ^ 2 < count
  le_columns_sq : count ≤ g.columns ^ 2
  pred_rows_mul_lt : (g.rows - 1) * g.columns < count
  le_rows_mul : count ≤ g.rows * g.columns
  pred_columns_le_rows : g.columns - 1 ≤ g.rows
  rows_le_columns : g.rows ≤ g.columns

/-- At least as many rows as columns but one are filled by a count above the square of that
number. -/
theorem pred_columns_le_rows {count columns rows : Nat} (hlt : (columns - 1) ^ 2 < count)
    (hle : count ≤ columns * rows) : columns - 1 ≤ rows := by
  by_contra h
  obtain ⟨k, rfl⟩ : ∃ k, columns = k + 2 := ⟨columns - 2, by omega⟩
  have hrows : (k + 2) * rows ≤ (k + 2) * k := Nat.mul_le_mul_left (k + 2) (by omega)
  have hsq : (k + 2 - 1) ^ 2 = (k + 2) * k + 1 := by
    show (k + 1) ^ 2 = (k + 2) * k + 1
    ring
  omega

theorem isTight_ofCount {count : Nat} (h : 0 < count) : (ofCount count).IsTight count := by
  have hfits := fits_ofCount h
  have hle := le_columns_mul_self count
  have hcolumns : (ofCount count).columns = leastSide count count 1 := by
    unfold ofCount
    rw [if_neg (Nat.ne_of_gt h)]
  have hlt : ((ofCount count).columns - 1) ^ 2 < count := by
    rw [hcolumns, sq]
    exact pred_leastSide_mul_self_lt h
  exact {
    columns_pos := hfits.columns_pos
    rows_pos := hfits.rows_pos
    pred_columns_sq_lt := hlt
    le_columns_sq := by rwa [sq]
    pred_rows_mul_lt := by
      rw [Nat.mul_comm]
      exact hfits.rows_least
    le_rows_mul := by
      rw [Nat.mul_comm]
      exact hfits.count_le
    pred_columns_le_rows := pred_columns_le_rows hlt hfits.count_le
    rows_le_columns := Grid.rows_le_columns hle hfits.rows_least }

/-! ## Checked cells -/

/-- The cell of a node before the grid is reflected, where all that is divided by is checked. -/
def fill? (g : Grid) (d : Direction) (i : Nat) : Option Cell :=
  if d.isHorizontal && 1 < g.rows then do
    let (column, row) ← divMod? i g.rows
    return ⟨column, row⟩
  else do
    let (row, column) ← divMod? i g.columns
    return ⟨column, row⟩

/-- A cell seen from the side where reading begins, where each difference is checked. -/
def reflect? (g : Grid) (d : Direction) (c : Cell) : Option Cell :=
  match d with
  | .down | .right => some c
  | .up => do
    let last ← minus? g.rows 1
    let row ← minus? last c.row
    return ⟨c.column, row⟩
  | .left => do
    let last ← minus? g.columns 1
    let column ← minus? last c.column
    return ⟨column, c.row⟩

/-- The cell of a node, where each step of the calculation is checked. -/
def cell? (g : Grid) (d : Direction) (i : Nat) : Option Cell := do
  let c ← g.fill? d i
  g.reflect? d c

variable {g : Grid} {count : Nat}

theorem fill?_eq_some (h : g.Fits count) (d : Direction) (i : Nat) :
    g.fill? d i = some (g.fill d i) := by
  unfold fill? fill
  split
  · rw [divMod?_of_pos h.rows_pos]
    rfl
  · rw [divMod?_of_pos h.columns_pos]
    rfl

theorem reflect?_eq_some (d : Direction) {c : Cell} (hc : c.column < g.columns)
    (hr : c.row < g.rows) : g.reflect? d c = some (g.reflect d c) := by
  cases d with
  | down => rfl
  | right => rfl
  | up =>
    have hone : 1 ≤ g.rows := by omega
    have hrow : c.row ≤ g.rows - 1 := by omega
    simp only [reflect?, reflect, minus?_of_le hone, Option.bind_eq_bind, Option.bind_some,
      minus?_of_le hrow]
    rfl
  | left =>
    have hone : 1 ≤ g.columns := by omega
    have hcolumn : c.column ≤ g.columns - 1 := by omega
    simp only [reflect?, reflect, minus?_of_le hone, Option.bind_eq_bind, Option.bind_some,
      minus?_of_le hcolumn]
    rfl

/-- On a grid that fits, each step of the calculation passes its check. -/
theorem cell?_eq_some (h : g.Fits count) (d : Direction) {i : Nat} (hi : i < count) :
    g.cell? d i = some (g.cell d i) := by
  unfold cell?
  rw [fill?_eq_some h d i]
  exact reflect?_eq_some d (fill_column_lt h d hi) (fill_row_lt h d hi)

/-- On a grid that is too small the column of a node may lie beyond the last. -/
example : (Grid.mk 2 2).cell? .left 4 = none := by decide

/-- The grid for a count is found by a search that ends, and in which no square overflows if twice the
count is a number of the machine. It holds the count tightly, and the cell of each node on it is
calculated without a fault. -/
theorem ofCount_isTight_and_cell?_eq_some {count : Nat} (h : 1 ≤ count) :
    (∀ greatest, 2 * count ≤ greatest → SideSearch greatest count 1 (ofCount count).columns) ∧
      (ofCount count).IsTight count ∧
      ∀ d i, i < count → (ofCount count).cell? d i = some ((ofCount count).cell d i) := by
  refine ⟨?_, isTight_ofCount h, ?_⟩
  · intro greatest hgreatest
    have hsearch := sideSearch_leastSide hgreatest (Nat.le_succ count) (Nat.le_refl 1) h
    unfold ofCount
    rwa [if_neg (Nat.ne_of_gt h)]
  · intro d i hi
    exact cell?_eq_some (fits_ofCount h) d hi

/-- Five nodes read to the left, counted in the words of any machine: the last one begins the last of
three columns. -/
theorem ofCount_isTight_and_cell?_eq_some_five :
    1 ≤ 5 ∧ SideSearch (USize.size - 1) 5 1 3 ∧ (Grid.mk 3 2).IsTight 5 ∧
      (Grid.mk 3 2).cell? .left 4 = some ⟨0, 0⟩ := by
  obtain ⟨hsearch, htight, hcell⟩ := ofCount_isTight_and_cell?_eq_some (by decide : 1 ≤ 5)
  have hword : 2 * 5 ≤ USize.size - 1 := by
    have hsize := USize.le_size
    omega
  exact ⟨by decide, hsearch _ hword, htight, hcell .left 4 (by decide)⟩

end Grid

end TextDiagram.Flow
