import TextDiagram.Proofs.Diagram
import TextDiagram.Proofs.Except
import TextDiagram.Proofs.Flow.WellFormed
import TextDiagram.Proofs.Sequence.WellFormed
import TextDiagram.Proofs.Statement

/-!
# What sources can describe

Main statement: whatever a source holds, the diagram that it describes is well formed, and its ids
and labels are parts of the statements (`isWellFormed_of_ofSource`).
-/

namespace TextDiagram.Diagram

/-- A diagram that statements can describe. -/
def IsWellFormed (statements : List (List Char)) : Diagram → Prop
  | flow chart _ => chart.IsWellFormed statements
  | sequence conversation => conversation.IsWellFormed statements

/-- The diagram that a source describes is well formed. -/
theorem isWellFormed_of_ofSource {source : List Char} {d : Diagram} (h : ofSource source = .ok d) :
    d.IsWellFormed (statements source) := by
  have hsep : ∀ s ∈ statements source, '\n' ∉ s ∧ ';' ∉ s := by
    intro s hs
    have hnone := (of_mem_statements hs).1
    exact ⟨fun hc => absurd (hnone '\n' hc) (by decide),
      fun hc => absurd (hnone ';' hc) (by decide)⟩
  obtain ⟨first, rest, hstatements, hread⟩ := ofSource_eq_ok_iff.mp h
  rw [hstatements] at hsep ⊢
  have hrest : ∀ s ∈ rest, '\n' ∉ s ∧ ';' ∉ s := fun s hs => hsep s (List.mem_cons_of_mem _ hs)
  have hsub : rest ⊆ first :: rest := List.subset_cons_self first rest
  rcases hread with ⟨-, h⟩ | ⟨direction, -, h⟩ | ⟨-, h⟩
  · obtain ⟨hp, hm, rfl⟩ := ofSequence_eq_ok_iff.mp h
    exact (Sequence.Conversation.isWellFormed_ofStatements hp hm hrest).mono hsub
  · obtain ⟨hne, rfl⟩ := ofFlow_eq_ok_iff.mp h
    exact (Flow.Chart.isWellFormed_ofStatements hne hrest).mono hsub
  · obtain ⟨hne, rfl⟩ := ofFlow_eq_ok_iff.mp h
    exact Flow.Chart.isWellFormed_ofStatements hne hsep

/-- A flow chart with empty brackets, a label in quotes and one that comes too late. -/
def quotedSource : List Char :=
  "graph LR; A[ ] -->|yes| B('to b')\nB[again]".toList

/-- The chart of this source. -/
def quotedChart : Flow.Chart where
  nodes := [⟨"A".toList, "A".toList, .bare⟩, ⟨"B".toList, "to b".toList, .round⟩]
  edges := [⟨"A".toList, "B".toList⟩]

/-- A sequence diagram with a message that is too long for its arrow. -/
def longSource : List Char :=
  ("sequenceDiagram\nactor A as  Ann \n" ++
    "A->>+B: aaaaaaaaaa bbbbbbbbbb  cccccccccc dddddddddd eeee").toList

/-- The conversation of this source. -/
def longConversation : Sequence.Conversation where
  participants := [⟨"A".toList, "Ann".toList⟩, ⟨"B".toList, "B".toList⟩]
  messages := [⟨"A".toList, "B".toList, "aaaaaaaaaa bbbbbbbbbb cccccccccc dddddddddd…".toList⟩]

theorem isWellFormed_of_ofSource_quoted_long :
    (ofSource quotedSource = .ok (.flow quotedChart .right) ∧
      quotedChart.IsWellFormed (statements quotedSource)) ∧
    ofSource longSource = .ok (.sequence longConversation) ∧
      longConversation.IsWellFormed (statements longSource) :=
  have hquoted : ofSource quotedSource = .ok (.flow quotedChart .right) :=
    eq_ok_of_toOption (by decide +kernel)
  have hlong : ofSource longSource = .ok (.sequence longConversation) :=
    eq_ok_of_toOption (by decide +kernel)
  ⟨⟨hquoted, isWellFormed_of_ofSource hquoted⟩, hlong, isWellFormed_of_ofSource hlong⟩

end TextDiagram.Diagram
