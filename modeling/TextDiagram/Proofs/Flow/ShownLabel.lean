import TextDiagram.Flow.Layout
import TextDiagram.Proofs.Text.Marked

/-!
# Labels in boxes

The box of a node has room for three lines of its label, which is shortened before it is wrapped.
Main statement: where the shortened label has room, the box shows every word of the label or its last
line ends with the mark (`Node.label_box_isMarked`). Elsewhere the last words are left out without a
mark (`not_forall_label_box_isMarked`).
-/

namespace TextDiagram.Flow

open Text

variable {α : Type} [Coordinate α]

/-- The box of a node has a label of at most three lines. If the words of the shortened label have
room on them, they show every word of the label, in order, or the last line ends with the ellipsis.
If not, there are three lines; they show some of the first words of the label, in order, and not
all. -/
theorem Node.label_box_isMarked (n : Node) : ∃ label, (n.box : Box α).label = some label ∧
    label.lines.length ≤ labelLines ∧
    (HaveRoom labelWidth labelLines (words (shorten labelLimit n.label)) →
      label.lines.flatMap words = words n.label ∨ IsMarked label.lines) ∧
    (¬ HaveRoom labelWidth labelLines (words (shorten labelLimit n.label)) →
      label.lines.length = labelLines ∧ label.lines.flatMap words <+: words n.label ∧
        label.lines.flatMap words ≠ words n.label) :=
  ⟨_, rfl, length_wrap_le .., isMarked_wrap, flatMap_words_wrap_prefix (by decide)⟩

/-! ## A label that is cut, and one that has no room -/

/-- A node whose label has more characters than are shown. -/
def lengthyNode : Node :=
  ⟨['A'], "validate the incoming request payload against the schema".toList, .square⟩

/-- A node whose label has four words, each of which takes a line, and no more characters than are
shown. -/
def crowdedNode : Node :=
  ⟨['A'], "collecting, normalising, validating, storing".toList, .square⟩

theorem Node.label_box_isMarked_lengthy :
    (∃ label, (lengthyNode.box : Box Rat).label = some label ∧
      (label.lines.flatMap words = words lengthyNode.label ∨ IsMarked label.lines)) ∧
    ∃ label, (crowdedNode.box : Box Rat).label = some label ∧ label.lines.length = labelLines ∧
      label.lines.flatMap words <+: words crowdedNode.label := by
  obtain ⟨label, hlabel, -, hroom, -⟩ := @label_box_isMarked Rat _ lengthyNode
  obtain ⟨label', hlabel', -, -, hnone⟩ := @label_box_isMarked Rat _ crowdedNode
  obtain ⟨hlength, hwords, -⟩ := hnone fun h => absurd (haveRoom_iff.mp h) (by decide +kernel)
  exact ⟨⟨label, hlabel, hroom (haveRoom_iff.mpr (by decide +kernel))⟩, label', hlabel', hlength,
    hwords⟩

/-- A box may leave out a word of the label without a mark. -/
theorem not_forall_label_box_isMarked : ¬ ∀ (n : Node) (label : Label),
    (n.box : Box Rat).label = some label →
      (words n.label).Sublist (label.lines.flatMap words) ∨ IsMarked label.lines := by
  intro h
  have hlines : shownLines crowdedNode.label =
      ["collecting,".toList, "normalising,".toList, "validating,".toList] := by
    decide +kernel
  rcases h crowdedNode _ rfl with hall | hmarked
  · have hlength : (words crowdedNode.label).length ≤
        ((shownLines crowdedNode.label).flatMap words).length := hall.length_le
    exact absurd hlength (by decide +kernel)
  · have hmarked : IsMarked (shownLines crowdedNode.label) := hmarked
    rw [hlines] at hmarked
    exact absurd hmarked (by decide)

end TextDiagram.Flow
