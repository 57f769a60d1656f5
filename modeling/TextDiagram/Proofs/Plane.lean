import Mathlib.Algebra.Order.Ring.Rat
import Mathlib.Tactic.Linarith
import Mathlib.Tactic.Ring
import TextDiagram.Plane

/-!
# The rational plane

With rational coordinates, `Coordinate` is the arithmetic of the rational numbers with their order.
Positions are then compared by frames: a frame contains points, lies within another one, or is apart
from it; it has four sides with a middle each. A picture can be reflected about its centre lines,
and a figure centred on a point goes along (`frame_mirror`).
-/

namespace TextDiagram

open Coordinate

attribute [ext] Point Frame

/-! ## Rational coordinates -/

namespace Coordinate

@[simp] theorem whole_rat (n : Nat) : (whole n : Rat) = n := rfl

@[simp] theorem half_rat (x : Rat) : half x = x / 2 := by
  show x / ((2 : Nat) : Rat) = x / 2
  norm_num

theorem less_rat (x y : Rat) : less x y = decide (x < y) := rfl

@[simp] theorem magnitude_rat (x : Rat) : magnitude x = |x| := by
  unfold magnitude
  rw [less_rat, whole_rat, Nat.cast_zero]
  by_cases h : x < 0
  · rw [if_pos (decide_eq_true h), abs_of_neg h]
  · rw [if_neg (by simpa using h), abs_of_nonneg (not_lt.mp h)]

theorem sign_of_neg {x : Rat} (h : x < 0) : sign x = -1 := by
  unfold sign
  rw [less_rat, whole_rat, Nat.cast_zero, if_pos (decide_eq_true h), whole_rat, Nat.cast_one]

theorem sign_of_nonneg {x : Rat} (h : 0 ≤ x) : sign x = 1 := by
  unfold sign
  rw [less_rat, whole_rat, Nat.cast_zero, if_neg (by simpa using h), whole_rat, Nat.cast_one]

end Coordinate

/-! ## Frames -/

namespace Frame

/-- A point lies in a frame or on its sides. -/
structure Contains (f : Frame Rat) (p : Point Rat) : Prop where
  left_le : f.left ≤ p.x
  le_right : p.x ≤ f.right
  top_le : f.top ≤ p.y
  le_bottom : p.y ≤ f.bottom

/-- A frame lies within another one. -/
structure Within (f g : Frame Rat) : Prop where
  left_le : g.left ≤ f.left
  top_le : g.top ≤ f.top
  right_le : f.right ≤ g.right
  bottom_le : f.bottom ≤ g.bottom

/-- Two frames are at least `dx` apart horizontally or at least `dy` vertically. -/
def Apart (dx dy : Rat) (f g : Frame Rat) : Prop :=
  f.right + dx ≤ g.left ∨ g.right + dx ≤ f.left ∨ f.bottom + dy ≤ g.top ∨ g.bottom + dy ≤ f.top

end Frame

/-- A picture of an extent, less a margin on each side. -/
def Extent.inset (e : Extent Rat) (margin : Rat) : Frame Rat where
  left := margin
  top := margin
  right := e.width - margin
  bottom := e.height - margin

section PointFrame

variable (p : Point Rat) (e : Extent Rat)

@[simp] theorem left_frame : (p.frame e).left = p.x - e.width / 2 := by
  rw [Point.frame, half_rat]

@[simp] theorem top_frame : (p.frame e).top = p.y - e.height / 2 := by
  simp only [Point.frame, half_rat]

@[simp] theorem right_frame : (p.frame e).right = p.x + e.width / 2 := by
  simp only [Point.frame, half_rat]

@[simp] theorem bottom_frame : (p.frame e).bottom = p.y + e.height / 2 := by
  simp only [Point.frame, half_rat]

end PointFrame

/-! ## Sides -/

/-- A side of a frame. -/
inductive Side
  /-- The left side. -/
  | left
  /-- The upper side. -/
  | top
  /-- The right side. -/
  | right
  /-- The lower side. -/
  | bottom
  deriving DecidableEq, Repr

namespace Side

/-- The side across a frame. -/
def opposite : Side → Side
  | left => right
  | top => bottom
  | right => left
  | bottom => top

/-- Whether one leaves a frame horizontally through a side. -/
def isHorizontal : Side → Bool
  | left | right => true
  | top | bottom => false

/-- How far it is from one point to another in the direction out of a side. -/
def advance (p q : Point Rat) : Side → Rat
  | left => p.x - q.x
  | top => p.y - q.y
  | right => q.x - p.x
  | bottom => q.y - p.y

/-- A side faces from one point to another if that is where the longer of the two distances between
them leads. -/
structure Faces (s : Side) (p q : Point Rat) : Prop where
  advance_pos : 0 < s.advance p q
  isHorizontal_iff : s.isHorizontal = true ↔ |q.y - p.y| < |q.x - p.x|

theorem advance_opposite (s : Side) (p q : Point Rat) : s.opposite.advance p q = s.advance q p := by
  cases s <;> rfl

end Side

/-- The middle of a side of a frame. -/
def Frame.middle (f : Frame Rat) : Side → Point Rat
  | .left => ⟨f.left, (f.top + f.bottom) / 2⟩
  | .top => ⟨(f.left + f.right) / 2, f.top⟩
  | .right => ⟨f.right, (f.top + f.bottom) / 2⟩
  | .bottom => ⟨(f.left + f.right) / 2, f.bottom⟩

/-- No point of a frame lies beyond a side of it. -/
theorem Frame.Contains.advance_nonpos {f : Frame Rat} {p : Point Rat} (h : f.Contains p)
    (s : Side) : s.advance (f.middle s) p ≤ 0 := by
  obtain ⟨hleft, hright, htop, hbottom⟩ := h
  cases s <;> simp only [Side.advance, Frame.middle] <;> linarith

/-- A frame contains the middles of its sides. -/
theorem Frame.contains_middle {f : Frame Rat} (hx : f.left ≤ f.right) (hy : f.top ≤ f.bottom)
    (s : Side) : f.Contains (f.middle s) := by
  cases s <;> constructor <;> simp only [Frame.middle] <;> linarith

/-- From a side of a frame to the opposite side of another one of the same extent, it is as far as
between their centres, less that extent. -/
theorem Side.advance_middle (s : Side) (p q : Point Rat) (e : Extent Rat) :
    s.advance ((p.frame e).middle s) ((q.frame e).middle s.opposite) =
      s.advance p q - if s.isHorizontal then e.width else e.height := by
  cases s <;> simp [Side.advance, Frame.middle, Side.opposite, Side.isHorizontal] <;> ring

/-- The side of a figure around one point that faces a figure around another. -/
def Side.facing (p q : Point Rat) : Side :=
  if |q.y - p.y| < |q.x - p.x| then
    if q.x < p.x then left else right
  else
    if q.y < p.y then top else bottom

theorem Side.faces_facing {p q : Point Rat} (h : p ≠ q) : (facing p q).Faces p q := by
  unfold facing
  split
  · next hlonger =>
    have hne : q.x - p.x ≠ 0 := abs_pos.mp (lt_of_le_of_lt (abs_nonneg _) hlonger)
    split
    · next hx => exact ⟨sub_pos.mpr hx, by simp [isHorizontal, hlonger]⟩
    · next hx =>
      have hpos : 0 < q.x - p.x := lt_of_le_of_ne (sub_nonneg.mpr (not_lt.mp hx)) hne.symm
      exact ⟨hpos, by simp [isHorizontal, hlonger]⟩
  · next hlonger =>
    split
    · next hy => exact ⟨sub_pos.mpr hy, by simpa [isHorizontal] using hlonger⟩
    · next hy =>
      -- without a step down there is no step at all
      have hpos : 0 < q.y - p.y := by
        refine lt_of_le_of_ne (sub_nonneg.mpr (not_lt.mp hy)) fun hzero => h ?_
        rw [← hzero, abs_zero, not_lt, abs_nonpos_iff] at hlonger
        ext
        · linarith
        · linarith
      exact ⟨hpos, by simpa [isHorizontal] using hlonger⟩

/-! ## Reflections -/

/-- A centre line of a picture. -/
inductive Axis
  /-- The line halfway between the left and the right. -/
  | vertical
  /-- The line halfway between the top and the bottom. -/
  | horizontal
  deriving DecidableEq, Repr

/-- A point of a picture reflected about a centre line. -/
def Point.mirror (axis : Axis) (e : Extent Rat) (p : Point Rat) : Point Rat :=
  match axis with
  | .vertical => ⟨e.width - p.x, p.y⟩
  | .horizontal => ⟨p.x, e.height - p.y⟩

/-- A frame in a picture reflected about a centre line. -/
def Frame.mirror (axis : Axis) (e : Extent Rat) (f : Frame Rat) : Frame Rat :=
  match axis with
  | .vertical => ⟨e.width - f.right, f.top, e.width - f.left, f.bottom⟩
  | .horizontal => ⟨f.left, e.height - f.bottom, f.right, e.height - f.top⟩

/-- The frame around a reflected point is the reflected frame. -/
theorem frame_mirror (axis : Axis) (e size : Extent Rat) (p : Point Rat) :
    (p.mirror axis e).frame size = (p.frame size).mirror axis e := by
  cases axis with
  | vertical => ext <;> simp [Point.mirror, Frame.mirror] <;> ring
  | horizontal => ext <;> simp [Point.mirror, Frame.mirror] <;> ring

end TextDiagram
