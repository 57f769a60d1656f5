import TextDiagram.Diagram
import TextDiagram.Flow.Layout
import TextDiagram.Sequence.Layout

/-!
# Layouts

Every diagram is laid out by the rules of its kind. The result knows the extent of the picture and
can be sketched.
-/

namespace TextDiagram

/-- A diagram with its parts on the plane. -/
inductive Layout (α : Type)
  /-- A flow chart. -/
  | flow (layout : Flow.Layout α)
  /-- A sequence diagram. -/
  | sequence (layout : Sequence.Layout α)

/-- Why a diagram cannot be laid out. -/
inductive LayoutError
  /-- An edge has an end that is no node. -/
  | flow (fault : Flow.LayoutError)
  /-- A message names somebody who is no participant. -/
  | sequence (fault : Sequence.LayoutError)
  deriving DecidableEq, Repr

/-- The wording of a fault. -/
def LayoutError.message : LayoutError → String
  | flow fault => fault.message
  | sequence fault => fault.message

namespace Layout

variable {α : Type}

/-- The kind of the diagram that is laid out. -/
def kind : Layout α → Kind
  | flow _ => .flowchart
  | sequence _ => .sequence

/-- The extent of the whole picture. -/
def extent : Layout α → Extent α
  | flow layout => layout.extent
  | sequence layout => layout.extent

variable [Coordinate α]

/-- The parts of a diagram, each on its layer. -/
def sketch : Layout α → Svg.Sketch α
  | flow layout => layout.sketch
  | sequence layout => layout.sketch

end Layout

variable {α : Type} [Coordinate α]

/-- The layout of a diagram. -/
def Diagram.layout : Diagram → Except LayoutError (Layout α)
  | flow chart direction => ((chart.layout direction).mapError .flow).map .flow
  | sequence conversation => (conversation.layout.mapError .sequence).map .sequence

/-- A layout is of the kind of its diagram. -/
theorem Diagram.kind_layout {d : Diagram} {l : Layout α} (h : d.layout = .ok l) :
    l.kind = d.kind := by
  cases d with
  | flow chart direction =>
    rw [layout] at h
    cases hl : (chart.layout direction : Except _ (Flow.Layout α)) <;> rw [hl] at h <;> cases h
    rfl
  | sequence conversation =>
    rw [layout] at h
    cases hl : (conversation.layout : Except _ (Sequence.Layout α)) <;> rw [hl] at h <;> cases h
    rfl

end TextDiagram
