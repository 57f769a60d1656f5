import TextDiagram.Figure.Arrow
import TextDiagram.Proofs.Plane

/-!
# Arrows between frames

An arrow joins two frames if it leads from the middle of a side of the one to the middle of the
opposite side of the other and touches the frames nowhere else (`Arrow.Joins`). It is enough that it
advances in the direction in which the side faces (`joins_of_advance_pos`): then each further point
of it is beyond the one side and short of the other.
-/

namespace TextDiagram

attribute [ext] Arrow

namespace Arrow

/-- The point of an arrow at a fraction of the way from its start to its end. -/
def along (a : Arrow Rat) (t : Rat) : Point Rat where
  x := a.start.x + t * (a.finish.x - a.start.x)
  y := a.start.y + t * (a.finish.y - a.start.y)

/-- An arrow passes a point, perhaps at one of its ends. -/
def Passes (a : Arrow Rat) (p : Point Rat) : Prop :=
  ∃ t, 0 ≤ t ∧ t ≤ 1 ∧ p = a.along t

/-- An arrow joins two frames: it starts in the middle of a side of the first, ends in the middle of
the opposite side of the second, and has no other point in common with them. -/
structure Joins (a : Arrow Rat) (f g : Frame Rat) (s : Side) : Prop where
  start_eq : a.start = f.middle s
  finish_eq : a.finish = g.middle s.opposite
  first_iff : ∀ p, a.Passes p → (f.Contains p ↔ p = a.start)
  second_iff : ∀ p, a.Passes p → (g.Contains p ↔ p = a.finish)

variable {a : Arrow Rat} {f g : Frame Rat} {s : Side}

theorem along_zero (a : Arrow Rat) : a.along 0 = a.start := by
  ext <;> simp [along]

theorem along_one (a : Arrow Rat) : a.along 1 = a.finish := by
  ext <;> simp [along]

/-- A fraction of the way is a fraction of the advance in each direction. -/
theorem advance_along (a : Arrow Rat) (s : Side) (t : Rat) :
    s.advance a.start (a.along t) = t * s.advance a.start a.finish := by
  cases s <;> simp only [Side.advance, along] <;> ring

theorem advance_along_finish (a : Arrow Rat) (s : Side) (t : Rat) :
    s.advance (a.along t) a.finish = (1 - t) * s.advance a.start a.finish := by
  cases s <;> simp only [Side.advance, along] <;> ring

/-- An arrow between the middles of opposite sides joins two frames if it advances from the one to
the other. -/
theorem joins_of_advance_pos (hf : f.Contains a.start) (hg : g.Contains a.finish)
    (hstart : a.start = f.middle s) (hfinish : a.finish = g.middle s.opposite)
    (h : 0 < s.advance a.start a.finish) : a.Joins f g s := by
  refine ⟨hstart, hfinish, ?_, ?_⟩
  · rintro p ⟨t, ht, -, rfl⟩
    refine ⟨fun hp => ?_, fun hp => hp ▸ hf⟩
    have hbeyond := hp.advance_nonpos s
    rw [← hstart, advance_along] at hbeyond
    have ht' : t = 0 := le_antisymm (nonpos_of_mul_nonpos_left hbeyond h) ht
    rw [ht', along_zero]
  · rintro p ⟨t, -, ht, rfl⟩
    refine ⟨fun hp => ?_, fun hp => hp ▸ hg⟩
    have hbeyond := hp.advance_nonpos s.opposite
    rw [← hfinish, Side.advance_opposite, advance_along_finish] at hbeyond
    have hrest : 1 - t ≤ 0 := nonpos_of_mul_nonpos_left hbeyond h
    have ht' : t = 1 := by linarith
    rw [ht', along_one]

end Arrow

end TextDiagram
