import TextDiagram.Diagram
import TextDiagram.Proofs.Flow.Reading
import TextDiagram.Proofs.Sequence.Reading

/-!
# Sources that describe no diagram

Each reason for which a source is refused is a property of its statements one by one
(`SourceError.Refuses`): how the first of them opens, and what the others say. Main statement: a
source is refused for a reason exactly if its statements have that property, and it describes a
diagram if they have none of these properties (`ofSource_eq_error_iff`).
-/

namespace TextDiagram

open Text

/-! ## How the statements open -/

/-- The first statement opens a sequence diagram, in letters of either case. -/
def OpensSequence (statements : List (List Char)) : Prop :=
  ∃ first ∈ statements.head?, sequenceOpening <+: lowercase first

/-- The first statement opens a flow chart: its first word does, in letters of either case. -/
def OpensFlow (statements : List (List Char)) : Prop :=
  ¬ OpensSequence statements ∧
    ∃ first ∈ statements.head?, lowercase (firstWord first) ∈ flowOpenings

/-- The first word up to its first hyphen, in letters of either case, opens a kind of diagrams that
is not drawn. -/
def OpensForeign (statements : List (List Char)) : Prop :=
  ∃ first ∈ statements.head?,
    (lowercase (firstWord first)).takeWhile (· != '-') ∈ foreignOpenings

/-- The statements are those of a flow chart without a heading: the first one opens no kind of
diagrams, and an edge operator occurs in one of them. -/
def IsUnheaded (statements : List (List Char)) : Prop :=
  ¬ OpensSequence statements ∧ ¬ OpensFlow statements ∧ ¬ OpensForeign statements ∧
    ∃ s ∈ statements, Flow.HasOperator s

/-- The statements are those of a flow chart with this body. -/
def IsFlowchart (statements body : List (List Char)) : Prop :=
  (OpensFlow statements ∧ body = statements.tail) ∨ (IsUnheaded statements ∧ body = statements)

section Heading

variable {first : List Char} {rest : List (List Char)}

theorem opensSequence_iff : OpensSequence (first :: rest) ↔
    sequenceOpening.isPrefixOf (lowercase first) = true := by
  simp [OpensSequence]

theorem opensFlow_iff : OpensFlow (first :: rest) ↔ ¬ OpensSequence (first :: rest) ∧
    flowOpenings.contains (lowercase (firstWord first)) = true := by
  simp [OpensFlow]

theorem opensForeign_iff : OpensForeign (first :: rest) ↔ opensForeign first = true := by
  simp [OpensForeign, opensForeign]

theorem any_cut?_iff {statements : List (List Char)} :
    (statements.any fun s => (Flow.cut? s).isSome) = true ↔
      ∃ s ∈ statements, Flow.HasOperator s := by
  simp only [List.any_eq_true, ← Option.ne_none_iff_isSome, ne_eq, Flow.cut?_eq_none_iff, not_not]

/-- The statements open in one of four ways, and the first of them tells which. -/
theorem ofStatements?_cases (first : List Char) (rest : List (List Char)) :
    (OpensSequence (first :: rest) ∧ Heading.ofStatements? first rest = some .sequence) ∨
    (OpensFlow (first :: rest) ∧
      Heading.ofStatements? first rest = some (.flow (headingDirection first))) ∨
    (IsUnheaded (first :: rest) ∧ Heading.ofStatements? first rest = some .missing) ∨
    (¬ OpensSequence (first :: rest) ∧ ¬ OpensFlow (first :: rest) ∧
      (OpensForeign (first :: rest) ∨ ∀ s ∈ first :: rest, ¬ Flow.HasOperator s) ∧
      Heading.ofStatements? first rest = none) := by
  unfold Heading.ofStatements?
  by_cases hsequence : OpensSequence (first :: rest)
  · rw [if_pos (opensSequence_iff.mp hsequence)]
    exact Or.inl ⟨hsequence, rfl⟩
  rw [if_neg fun h => hsequence (opensSequence_iff.mpr h)]
  by_cases hflow : OpensFlow (first :: rest)
  · rw [if_pos (opensFlow_iff.mp hflow).2]
    exact Or.inr (Or.inl ⟨hflow, rfl⟩)
  rw [if_neg fun h => hflow (opensFlow_iff.mpr ⟨hsequence, h⟩)]
  by_cases hforeign : OpensForeign (first :: rest)
  · rw [if_pos (opensForeign_iff.mp hforeign)]
    exact Or.inr (Or.inr (Or.inr ⟨hsequence, hflow, Or.inl hforeign, rfl⟩))
  rw [if_neg fun h => hforeign (opensForeign_iff.mpr h)]
  by_cases hedge : ∃ s ∈ first :: rest, Flow.HasOperator s
  · rw [if_pos (any_cut?_iff.mpr hedge)]
    exact Or.inr (Or.inr (Or.inl ⟨⟨hsequence, hflow, hforeign, hedge⟩, rfl⟩))
  · rw [if_neg fun h => hedge (any_cut?_iff.mp h)]
    have hnone : ∀ s ∈ first :: rest, ¬ Flow.HasOperator s := fun s hs h => hedge ⟨s, hs, h⟩
    exact Or.inr (Or.inr (Or.inr ⟨hsequence, hflow, Or.inr hnone, rfl⟩))

end Heading

/-! ## Reasons to refuse a source -/

/-- What the statements of a source are like if it is refused for a reason. -/
def SourceError.Refuses (statements : List (List Char)) : SourceError → Prop
  | .empty => statements = []
  | .unrecognized opening =>
    ¬ OpensSequence statements ∧ ¬ OpensFlow statements ∧
      (OpensForeign statements ∨ ∀ s ∈ statements, ¬ Flow.HasOperator s) ∧
      ∃ first ∈ statements.head?, opening = shorten openingLimit first
  | .noNodes => ∃ body, IsFlowchart statements body ∧ ∀ s ∈ body, ¬ Flow.IsContent s
  | .noParticipants => OpensSequence statements ∧ ∀ s ∈ statements.tail,
      ¬ (¬ Sequence.IsSkipped s ∧ (Sequence.IsDeclaration s ∨ Sequence.IsMessage s))
  | .noMessages => OpensSequence statements ∧
      (∃ s ∈ statements.tail, ¬ Sequence.IsSkipped s ∧ Sequence.IsDeclaration s) ∧
      ∀ s ∈ statements.tail, ¬ (¬ Sequence.IsSkipped s ∧ Sequence.IsMessage s)

namespace Diagram

variable {d : Diagram}

theorem ofFlow_eq_ok_iff {direction : Flow.Direction} {body : List (List Char)} :
    ofFlow direction body = .ok d ↔
      (Flow.Chart.ofStatements body).nodes ≠ [] ∧ .flow (.ofStatements body) direction = d := by
  unfold ofFlow
  simp only [List.isEmpty_iff]
  split
  · next h => simp [h]
  · next h => simp [h]

theorem ofSequence_eq_ok_iff {body : List (List Char)} : ofSequence body = .ok d ↔
    (Sequence.Conversation.ofStatements body).participants ≠ [] ∧
      (Sequence.Conversation.ofStatements body).messages ≠ [] ∧
        .sequence (.ofStatements body) = d := by
  unfold ofSequence
  simp only [List.isEmpty_iff]
  split
  · next h => simp [h]
  split
  · next h => simp [h]
  · next hp hm => simp [hp, hm]

/-- A source describes a diagram if its statements do in the way in which they open. -/
theorem ofSource_eq_ok_iff {source : List Char} : ofSource source = .ok d ↔
    ∃ first rest, statements source = first :: rest ∧
      ((Heading.ofStatements? first rest = some .sequence ∧ ofSequence rest = .ok d) ∨
        (∃ direction, Heading.ofStatements? first rest = some (.flow direction) ∧
          ofFlow direction rest = .ok d) ∨
        (Heading.ofStatements? first rest = some .missing ∧
          ofFlow .down (first :: rest) = .ok d)) := by
  unfold ofSource
  cases statements source with
  | nil => simp [ofStatements]
  | cons first rest =>
    rw [ofStatements]
    cases hheading : Heading.ofStatements? first rest with
    | none => simp [hheading]
    | some heading => cases heading <;> simp [hheading]

theorem ofFlow_eq_error_iff {d : Flow.Direction} {body : List (List Char)} {e : SourceError} :
    ofFlow d body = .error e ↔ e = .noNodes ∧ ∀ s ∈ body, ¬ Flow.IsContent s := by
  rw [← Flow.nodes_ofStatements_eq_nil_iff]
  unfold ofFlow
  simp only [List.isEmpty_iff]
  split
  · next h => simp [h, eq_comm]
  · next h => simp [h]

/-- A sequence diagram is refused if it has no participant or, failing that, no message. -/
theorem ofSequence_eq_error_iff {body : List (List Char)} {e : SourceError} :
    ofSequence body = .error e ↔
      (e = .noParticipants ∧ ∀ s ∈ body,
        ¬ (¬ Sequence.IsSkipped s ∧ (Sequence.IsDeclaration s ∨ Sequence.IsMessage s))) ∨
      (e = .noMessages ∧ (∃ s ∈ body, ¬ Sequence.IsSkipped s ∧ Sequence.IsDeclaration s) ∧
        ∀ s ∈ body, ¬ (¬ Sequence.IsSkipped s ∧ Sequence.IsMessage s)) := by
  rw [← Sequence.Conversation.participants_ofStatements_eq_nil_iff,
    ← Sequence.Conversation.messages_ofStatements_eq_nil_iff]
  unfold ofSequence
  simp only [List.isEmpty_iff]
  by_cases hp : (Sequence.Conversation.ofStatements body).participants = []
  · have hsilent := Sequence.Conversation.participants_ofStatements_eq_nil_iff.mp hp
    have hnone : ¬ ∃ s ∈ body, ¬ Sequence.IsSkipped s ∧ Sequence.IsDeclaration s := by
      rintro ⟨s, hs, hskip, hdeclared⟩
      exact hsilent s hs ⟨hskip, Or.inl hdeclared⟩
    rw [if_pos hp]
    simp only [Except.error.injEq, hp, hnone, and_true, false_and, and_false, or_false]
    exact ⟨Eq.symm, Eq.symm⟩
  by_cases hm : (Sequence.Conversation.ofStatements body).messages = []
  · have hunsent := Sequence.Conversation.messages_ofStatements_eq_nil_iff.mp hm
    -- something is said and nothing is sent, so that somebody is declared
    have hdeclared : ∃ s ∈ body, ¬ Sequence.IsSkipped s ∧ Sequence.IsDeclaration s := by
      by_contra hnone
      refine hp (Sequence.Conversation.participants_ofStatements_eq_nil_iff.mpr ?_)
      rintro s hs ⟨hskip, hdeclared | hsent⟩
      · exact hnone ⟨s, hs, hskip, hdeclared⟩
      · exact hunsent s hs ⟨hskip, hsent⟩
    rw [if_neg hp, if_pos hm]
    simp only [Except.error.injEq, hp, hm, hdeclared, and_true, and_false, false_or]
    exact ⟨Eq.symm, Eq.symm⟩
  · rw [if_neg hp, if_neg hm]
    simp only [reduceCtorEq, hp, hm, and_false, or_false]

/-- Some statements are refused for a reason exactly if they are as the reason says. -/
theorem ofStatements_eq_error_iff {S : List (List Char)} {e : SourceError} :
    ofStatements S = .error e ↔ e.Refuses S := by
  cases S with
  | nil =>
    cases e <;> simp [ofStatements, SourceError.Refuses, IsFlowchart, OpensFlow, OpensSequence,
      IsUnheaded]
  | cons first rest =>
    rw [ofStatements]
    rcases ofStatements?_cases first rest with ⟨hs, h⟩ | ⟨hf, h⟩ | ⟨hu, h⟩ | ⟨hs, hf, hn, h⟩
    · have hnot : ∀ body, ¬ IsFlowchart (first :: rest) body := by
        rintro body (⟨hf, -⟩ | ⟨hu, -⟩)
        · exact hf.1 hs
        · exact hu.1 hs
      rw [h]
      simp only [ofSequence_eq_error_iff]
      cases e <;> simp [SourceError.Refuses, hs, hnot]
    · have hbody : ∀ body, IsFlowchart (first :: rest) body ↔ body = rest := by
        intro body
        simp [IsFlowchart, IsUnheaded, hf]
      rw [h]
      simp only [ofFlow_eq_error_iff]
      cases e <;> simp [SourceError.Refuses, hf, hf.1, hbody]
    · obtain ⟨hs, hf, hforeign, s, hmem, hop⟩ := hu
      have hbody : ∀ body, IsFlowchart (first :: rest) body ↔ body = first :: rest := by
        intro body
        simp only [IsFlowchart, hf, false_and, false_or]
        exact ⟨And.right, fun hb => ⟨⟨hs, hf, hforeign, s, hmem, hop⟩, hb⟩⟩
      have hedge : ¬ ∀ s ∈ first :: rest, ¬ Flow.HasOperator s := fun hnone => hnone s hmem hop
      rw [h]
      simp only [ofFlow_eq_error_iff]
      cases e with
      | unrecognized opening =>
        simp only [SourceError.Refuses, hforeign, hedge, or_self, false_and, and_false]
        simp
      | empty => simp [SourceError.Refuses]
      | noNodes => simp [SourceError.Refuses, hbody]
      | noParticipants => simp [SourceError.Refuses, hs]
      | noMessages => simp [SourceError.Refuses, hs]
    · have hnot : ∀ body, ¬ IsFlowchart (first :: rest) body := by
        rintro body (⟨hf', -⟩ | ⟨⟨-, -, hforeign, s, hmem, hop⟩, -⟩)
        · exact hf hf'
        · rcases hn with hn | hn
          · exact hforeign hn
          · exact hn s hmem hop
      rw [h]
      cases e with
      | unrecognized opening =>
        simp only [SourceError.Refuses, Except.error.injEq, SourceError.unrecognized.injEq]
        constructor
        · rintro rfl
          exact ⟨hs, hf, hn, first, rfl, rfl⟩
        · rintro ⟨-, -, -, first', hfirst, rfl⟩
          cases hfirst
          rfl
      | empty => simp [SourceError.Refuses]
      | noNodes => simp [SourceError.Refuses, hnot]
      | noParticipants => simp [SourceError.Refuses, hs]
      | noMessages => simp [SourceError.Refuses, hs]

/-- A source is refused for a reason exactly if its statements are as the reason says, and it
describes a diagram if there is no such reason. -/
theorem ofSource_eq_error_iff (source : List Char) :
    (∀ e, ofSource source = .error e ↔ e.Refuses (statements source)) ∧
      ((∃ d, ofSource source = .ok d) ↔ ∀ e : SourceError, ¬ e.Refuses (statements source)) := by
  have herror : ∀ e, ofSource source = .error e ↔ e.Refuses (statements source) :=
    fun e => ofStatements_eq_error_iff
  refine ⟨herror, ?_⟩
  simp only [← herror]
  cases ofSource source with
  | error e => simp
  | ok d => simp

end Diagram

end TextDiagram
