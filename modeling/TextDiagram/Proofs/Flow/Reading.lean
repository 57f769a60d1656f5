import TextDiagram.Proofs.Flow.Cut
import TextDiagram.Proofs.Flow.History

/-!
# What the statements of a flow chart add

A statement of a flow chart adds to the chart if it is not passed over and is a node or an edge
(`mem_mentions_read_iff`). An edge whose one side cannot be read adds nothing at all. Main
statement: a chart is without nodes exactly if none of its statements adds to it
(`nodes_ofStatements_eq_nil_iff`).
-/

namespace TextDiagram.Flow

open Text

/-- A statement is a node: no operator occurs in it, and it is a token. -/
def IsNodeStatement (s : List Char) : Prop :=
  ¬ HasOperator s ∧ ∃ token, Token.ofText? s = some token

/-- A statement is an edge: both sides of its first operator are tokens, apart from edge labels. -/
def IsEdgeStatement (s : List Char) : Prop :=
  ∃ cut source target, cut? s = some cut ∧
    Token.ofText? (withoutLabelAtEnd cut.before) = some source ∧
    Token.ofText? (withoutLabelAtStart cut.after) = some target

/-- A statement is passed over because of its first word. -/
def IsSkipped (s : List Char) : Prop :=
  firstWord s ∈ keywords

/-- A statement adds to a chart. -/
def IsContent (s : List Char) : Prop :=
  ¬ IsSkipped s ∧ (IsNodeStatement s ∨ IsEdgeStatement s)

/-- A statement that is not passed over adds the node that it is, or the edge with its two nodes. Half
an edge adds nothing. -/
theorem mem_mentions_read_iff {s : List Char} {m : Mention} :
    m ∈ (read s).mentions ↔ ¬ IsSkipped s ∧
      ((∃ token, cut? s = none ∧ Token.ofText? s = some token ∧ m = token.mention) ∨
        ∃ cut source target, cut? s = some cut ∧
          Token.ofText? (withoutLabelAtEnd cut.before) = some source ∧
          Token.ofText? (withoutLabelAtStart cut.after) = some target ∧
          m ∈ [source.mention, target.mention, .edge source.id target.id]) := by
  unfold read
  by_cases hkey : firstWord s ∈ keywords
  · rw [if_pos (by simpa using hkey)]
    simp [Reading.mentions, IsSkipped, hkey]
  rw [if_neg (by simpa using hkey)]
  have hskip : ¬ IsSkipped s := hkey
  cases hcut : cut? s with
  | none =>
    cases htoken : Token.ofText? s with
    | none => simp [Reading.mentions]
    | some token => simp [Reading.mentions, hskip]
  | some cut =>
    cases hsource : Token.ofText? (withoutLabelAtEnd cut.before) with
    | none => simp [Reading.mentions, hsource]
    | some source =>
      cases htarget : Token.ofText? (withoutLabelAtStart cut.after) with
      | none => simp [Reading.mentions, htarget]
      | some target => simp [Reading.mentions, hskip, hsource, htarget]

theorem mentions_read_eq_nil_iff {s : List Char} : (read s).mentions = [] ↔ ¬ IsContent s := by
  rw [List.eq_nil_iff_forall_not_mem]
  constructor
  · rintro h ⟨hskip, ⟨hop, token, htoken⟩ | ⟨cut, source, target, hcut, hsource, htarget⟩⟩
    · have hcut : cut? s = none := cut?_eq_none_iff.mpr hop
      exact h token.mention
        (mem_mentions_read_iff.mpr ⟨hskip, .inl ⟨token, hcut, htoken, rfl⟩⟩)
    · exact h source.mention (mem_mentions_read_iff.mpr
        ⟨hskip, .inr ⟨cut, source, target, hcut, hsource, htarget, List.mem_cons_self ..⟩⟩)
  · intro h m hm
    obtain ⟨hskip, hadded⟩ := mem_mentions_read_iff.mp hm
    rcases hadded with ⟨token, hcut, htoken, -⟩ | ⟨cut, source, target, hcut, hsource, htarget, -⟩
    · exact h ⟨hskip, .inl ⟨cut?_eq_none_iff.mp hcut, token, htoken⟩⟩
    · exact h ⟨hskip, .inr ⟨cut, source, target, hcut, hsource, htarget⟩⟩

theorem nodes_ofStatements_eq_nil_iff {statements : List (List Char)} :
    (Chart.ofStatements statements).nodes = [] ↔ ∀ s ∈ statements, ¬ IsContent s := by
  unfold Chart.ofStatements
  rw [Chart.nodes_ofMentions_eq_nil_iff, List.flatMap_eq_nil_iff]
  simp only [mentions_read_eq_nil_iff]

end TextDiagram.Flow
