import Mathlib.Algebra.BigOperators.Group.List.Basic
import Mathlib.Algebra.Order.Field.Rat
import Mathlib.Tactic.FieldSimp
import Mathlib.Tactic.NormNum
import TextDiagram.Figure.Label
import TextDiagram.Proofs.Plane

/-!
# Where the lines of a label stand

With rational coordinates, the lines of a label around a point stand at heights that go down in
equal steps (`heights`) and are centred on the point (`areCentred_heights`). Main statements: a label
with a line that is not empty is drawn as one text with a span for each line at these heights
(`exists_draw_eq`), and its lines take up no more room than their number needs
(`mem_heights_bounds`).
-/

namespace TextDiagram

open Coordinate Svg

/-- Heights at which lines stand one below the other, centred on a height. -/
structure AreCentred (heights : List Rat) (y : Rat) : Prop where
  step : ∀ i (h : i + 1 < heights.length), heights[i + 1] - heights[i] = 16
  average : heights.sum / heights.length = y

namespace Label

/-! ## Equal steps -/

/-- A number of heights from the first one down, in steps of one line. -/
def steps (first : Rat) (count : Nat) : List Rat :=
  (List.range count).map fun i : Nat => first + i * lineHeight

@[simp] theorem length_steps (first : Rat) (count : Nat) : (steps first count).length = count := by
  rw [steps, List.length_map, List.length_range]

@[simp] theorem getElem_steps (first : Rat) (count : Nat) {i : Nat}
    (h : i < (steps first count).length) : (steps first count)[i] = first + i * lineHeight := by
  simp [steps]

/-- Equal steps have the sum of as many steps that all stand halfway. -/
theorem sum_steps (first : Rat) (count : Nat) :
    (steps first count).sum = count * (first + (count - 1) * lineHeight / 2) := by
  induction count with
  | zero => simp [steps]
  | succ count ih =>
    have hlast : steps first (count + 1) = steps first count ++ [first + count * lineHeight] := by
      rw [steps, List.range_succ, List.map_append]
      rfl
    rw [hlast, List.sum_append, ih, List.sum_singleton]
    push_cast
    ring

/-! ## The lines of a label -/

/-- The span of a line at a height. -/
def spanAt {α : Type} (x y : α) (line : List Char) : Node α :=
  .element "tspan" [("x", .number x), ("y", .number y)] [.line (escape line)]

theorem spans_eq_zipWith (x first : Rat) (lines : List (List Char)) :
    spans x first lines = (steps first lines.length).zipWith (spanAt x) lines := by
  refine List.ext_getElem (by simp [spans]) fun i hi _ => ?_
  simp [spans, spanAt]

/-- The heights of the lines of a label around a point. -/
def heights (l : Label) (p : Point Rat) : List Rat :=
  steps (l.firstLine p) l.lines.length

variable {l : Label}

theorem firstLine_eq (h : l.lines ≠ []) (p : Point Rat) :
    l.firstLine p = p.y - (l.lines.length - 1) * lineHeight / 2 := by
  have hpos : 1 ≤ l.lines.length := List.length_pos_iff.mpr h
  simp only [firstLine, half_rat, whole_rat, Nat.cast_sub hpos, Nat.cast_one]

theorem isBlank_iff : l.isBlank = true ↔ ∀ line ∈ l.lines, line = [] := by
  simp [isBlank]

theorem lines_ne_nil (h : l.isBlank = false) : l.lines ≠ [] := by
  intro hnil
  rw [isBlank, hnil] at h
  cases h

/-- The lines of a label are centred on the point around which it is drawn. -/
theorem areCentred_heights (h : l.lines ≠ []) (p : Point Rat) : AreCentred (l.heights p) p.y := by
  have hpos : (l.lines.length : Rat) ≠ 0 := by
    simpa using h
  constructor
  case step =>
    intro i hi
    simp only [heights, getElem_steps, lineHeight]
    push_cast
    ring
  case average =>
    rw [heights, sum_steps, length_steps, mul_div_cancel_left₀ _ hpos, firstLine_eq h]
    ring

/-- The lines of a label, each as high as a line, stand within the room that their number needs. -/
theorem mem_heights_bounds {p : Point Rat} {y : Rat} (h : y ∈ l.heights p) :
    p.y - l.lines.length * 8 ≤ y - 8 ∧ y + 8 ≤ p.y + l.lines.length * 8 := by
  obtain ⟨i, hi, rfl⟩ := List.getElem_of_mem h
  have hlt : i < l.lines.length := by simpa [heights] using hi
  have hne : l.lines ≠ [] := List.ne_nil_of_length_pos (by omega)
  have hfirst : (0 : Rat) ≤ i := Nat.cast_nonneg i
  have hlast : (i : Rat) + 1 ≤ l.lines.length := by exact_mod_cast hlt
  simp only [heights, getElem_steps, firstLine_eq hne, lineHeight]
  push_cast
  constructor
  · linarith
  · linarith

/-- A label that shows something is drawn as one text, with a span for each line in order. -/
theorem exists_draw_eq (h : l.isBlank = false) (p : Point Rat) : ∃ attributes,
    l.draw p = .single .text
      (.element "text" attributes (.line [] :: (l.heights p).zipWith (spanAt p.x) l.lines)) := by
  rw [draw, if_neg (by simp [h]), heights, ← spans_eq_zipWith]
  exact ⟨_, rfl⟩

end Label

end TextDiagram
