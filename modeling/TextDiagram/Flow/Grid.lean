import TextDiagram.Flow.Direction

/-!
# The grid of a flow chart

The nodes of a flow chart are placed on the cells of a grid that is as square as it can be, in the
order of the nodes. Charts read downwards or upwards fill the grid row by row, the others column by
column; charts read upwards or to the left reflect it.
-/

namespace TextDiagram.Flow

/-- The numbers of columns and rows of a grid. -/
structure Grid where
  /-- The number of columns. -/
  columns : Nat
  /-- The number of rows. -/
  rows : Nat
  deriving DecidableEq, Repr

/-- A place on a grid, counted from the upper left. -/
structure Cell where
  /-- The number of columns to the left. -/
  column : Nat
  /-- The number of rows above. -/
  row : Nat
  deriving DecidableEq, Repr

/-- The first number from `side` on whose square is at least `count`, if one of the next `steps`
numbers is it. -/
def leastSide (count : Nat) : (steps side : Nat) → Nat
  | 0, side => side
  | steps + 1, side => if side * side < count then leastSide count steps (side + 1) else side

namespace Grid

/-- The grid for a number of nodes: the least number of columns whose square holds them, and as
many rows as they fill. -/
def ofCount (count : Nat) : Grid :=
  if count = 0 then ⟨0, 0⟩
  else
    let columns := leastSide count count 1
    ⟨columns, (count + columns - 1) / columns⟩

/-- The cell of a node before the grid is reflected. A grid of a single row is always filled along
it. -/
def fill (g : Grid) (direction : Direction) (index : Nat) : Cell :=
  if direction.isHorizontal && 1 < g.rows then ⟨index / g.rows, index % g.rows⟩
  else ⟨index % g.columns, index / g.columns⟩

/-- A cell seen from the side where reading begins. -/
def reflect (g : Grid) (direction : Direction) (cell : Cell) : Cell :=
  match direction with
  | .down | .right => cell
  | .up => ⟨cell.column, g.rows - 1 - cell.row⟩
  | .left => ⟨g.columns - 1 - cell.column, cell.row⟩

/-- The cell of the node at a position among the nodes. -/
def cell (g : Grid) (direction : Direction) (index : Nat) : Cell :=
  g.reflect direction (g.fill direction index)

end Grid

/-! ## The least side -/

/-- The square of the least side holds the count, if there are steps enough to find it. -/
theorem le_leastSide_mul_self {count steps side : Nat} (h : count ≤ steps + side) (hs : 1 ≤ side) :
    count ≤ leastSide count steps side * leastSide count steps side := by
  induction steps generalizing side with
  | zero => exact Nat.le_trans (by omega) (Nat.le_mul_of_pos_left side hs)
  | succ steps ih =>
    unfold leastSide
    split
    · exact ih (by omega) (by omega)
    · omega

/-- A grid holds all nodes for which it is made. -/
theorem Grid.le_columns_mul_self (count : Nat) :
    count ≤ (ofCount count).columns * (ofCount count).columns := by
  unfold ofCount
  split
  · omega
  · exact le_leastSide_mul_self (by omega) (by omega)

end TextDiagram.Flow
