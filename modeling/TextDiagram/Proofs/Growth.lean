import TextDiagram.Proofs.Diagram
import TextDiagram.Proofs.Except
import TextDiagram.Proofs.Flow.Growth
import TextDiagram.Proofs.Sequence.Growth
import TextDiagram.Proofs.Statement

/-!
# A source goes on

The first statements of a source decide what kind of diagram it is, and further statements only add
to it. Main statement: whatever lines follow a source that describes a diagram, the two together
describe one in which the first is kept (`exists_ofSource_append`).
-/

namespace TextDiagram

/-- What the first statements tell stays as it is when others follow. -/
theorem Heading.ofStatements?_append {first : List Char} {rest : List (List Char)} {h : Heading}
    (hheading : ofStatements? first rest = some h) (more : List (List Char)) :
    ofStatements? first (rest ++ more) = some h := by
  unfold ofStatements? at hheading ⊢
  split
  · next hsequence => rwa [if_pos hsequence] at hheading
  next hsequence =>
  rw [if_neg hsequence] at hheading
  split
  · next hflow => rwa [if_pos hflow] at hheading
  next hflow =>
  rw [if_neg hflow] at hheading
  split
  · next hforeign => rwa [if_pos hforeign] at hheading
  next hforeign =>
  rw [if_neg hforeign] at hheading
  -- without a heading there is an operator among the statements, and there still is one
  split at hheading
  · next hoperator =>
    rw [← List.cons_append, List.any_append, hoperator, Bool.true_or, if_pos rfl]
    exact hheading
  · cases hheading

namespace Diagram

/-- What a diagram says is kept in another one of the same kind and direction. -/
inductive IsKeptIn : Diagram → Diagram → Prop
  /-- A flow chart is kept in a chart that is read in the same direction. -/
  | flow {c c' : Flow.Chart} (direction : Flow.Direction) (h : c.IsKeptIn c') :
    IsKeptIn (.flow c direction) (.flow c' direction)
  /-- A sequence diagram is kept in another one. -/
  | sequence {c c' : Sequence.Conversation} (h : c.IsKeptIn c') :
    IsKeptIn (.sequence c) (.sequence c')

variable {d : Diagram} {body : List (List Char)}

theorem exists_ofFlow_append {direction : Flow.Direction} (h : ofFlow direction body = .ok d)
    (more : List (List Char)) :
    ∃ d', ofFlow direction (body ++ more) = .ok d' ∧ d.IsKeptIn d' := by
  obtain ⟨hne, rfl⟩ := ofFlow_eq_ok_iff.mp h
  have hkept := Flow.Chart.isKeptIn_ofStatements_append body more
  exact ⟨_, ofFlow_eq_ok_iff.mpr ⟨hkept.nodes_ne_nil hne, rfl⟩, .flow direction hkept⟩

theorem exists_ofSequence_append (h : ofSequence body = .ok d) (more : List (List Char)) :
    ∃ d', ofSequence (body ++ more) = .ok d' ∧ d.IsKeptIn d' := by
  obtain ⟨hp, hm, rfl⟩ := ofSequence_eq_ok_iff.mp h
  have hkept := Sequence.Conversation.isKeptIn_ofStatements_append body more
  exact ⟨_, ofSequence_eq_ok_iff.mpr
    ⟨hkept.participants_ne_nil hp, hkept.messages_ne_nil hm, rfl⟩, .sequence hkept⟩

/-- Whatever lines follow a source that describes a diagram: all of them together describe a diagram
as well, of the same kind and direction, in which the first is kept. -/
theorem exists_ofSource_append {source : List Char} (h : ofSource source = .ok d)
    (more : List Char) :
    ∃ d', ofSource (source ++ '\n' :: more) = .ok d' ∧ d.IsKeptIn d' := by
  obtain ⟨first, rest, hstatements, hread⟩ := ofSource_eq_ok_iff.mp h
  have hall : statements (source ++ '\n' :: more) = first :: (rest ++ statements more) := by
    rw [statements_append_cons (by decide), hstatements, List.cons_append]
  rcases hread with ⟨hheading, h⟩ | ⟨direction, hheading, h⟩ | ⟨hheading, h⟩
  · obtain ⟨d', hd', hkept⟩ := exists_ofSequence_append h (statements more)
    exact ⟨d', ofSource_eq_ok_iff.mpr
      ⟨first, _, hall, Or.inl ⟨Heading.ofStatements?_append hheading _, hd'⟩⟩, hkept⟩
  · obtain ⟨d', hd', hkept⟩ := exists_ofFlow_append h (statements more)
    exact ⟨d', ofSource_eq_ok_iff.mpr ⟨first, _, hall,
      Or.inr (Or.inl ⟨direction, Heading.ofStatements?_append hheading _, hd'⟩)⟩, hkept⟩
  · obtain ⟨d', hd', hkept⟩ := exists_ofFlow_append h (statements more)
    exact ⟨d', ofSource_eq_ok_iff.mpr ⟨first, _, hall,
      Or.inr (Or.inr ⟨Heading.ofStatements?_append hheading _, hd'⟩)⟩, hkept⟩

/-- A chart without a heading, in which one node has a label of its own. -/
def labelledChart : Flow.Chart where
  nodes := [⟨"A".toList, "a".toList, .circle⟩, ⟨"B".toList, "B".toList, .bare⟩]
  edges := [⟨"A".toList, "B".toList⟩]

/-- Neither another label nor a heading that comes too late changes what was said. -/
theorem exists_ofSource_append_labelled :
    ofSource "A((a)) --> B".toList = .ok (.flow labelledChart .down) ∧
      ∃ d', ofSource ("A((a)) --> B".toList ++ '\n' :: "\r\nA[b];sequenceDiagram\nB[".toList) =
        .ok d' ∧ (flow labelledChart .down).IsKeptIn d' :=
  have h : ofSource "A((a)) --> B".toList = .ok (.flow labelledChart .down) :=
    eq_ok_of_toOption (by decide +kernel)
  ⟨h, exists_ofSource_append h _⟩

end Diagram

end TextDiagram
