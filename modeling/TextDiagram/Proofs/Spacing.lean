import Mathlib.Logic.Relation
import TextDiagram.Proofs.Diagram
import TextDiagram.Proofs.Flow.Writing

/-!
# The spacing of a source

How a source is set does not matter: which separators it uses, how its lines end, how its pieces are
indented, and how many blank pieces and comments stand between the others (`Respaced`). Main
statement: a source has the same statements and describes the same in every setting, and a flow
chart without a heading describes the same with one (`ofSource_spacing`).
-/

namespace TextDiagram

open Text
open scoped ItemByItem

/-! ## Pieces in their places -/

/-- A piece of a source: it holds no separator. -/
def IsPiece (p : List Char) : Prop :=
  ∀ c ∈ p, isSeparator c = false

/-- A piece may begin behind a text: the text is empty or ends with a separator. -/
def OpensPiece (a : List Char) : Prop :=
  ∀ c ∈ a.getLast?, isSeparator c = true

/-- A piece may end in front of a text: the text is empty or begins with a separator. -/
def ClosesPiece (b : List Char) : Prop :=
  ∀ c ∈ b.head?, isSeparator c = true

/-- One step from a setting of a source to another. -/
inductive Respaced : List Char → List Char → Prop
  /-- Another separator stands in the place of one. -/
  | separator {c c' : Char} (hc : isSeparator c = true) (hc' : isSeparator c' = true)
    (a b : List Char) : Respaced (a ++ c :: b) (a ++ c' :: b)
  /-- A carriage return stands in front of the newline of a line. -/
  | lineEnd (a b : List Char) : Respaced (a ++ '\n' :: b) (a ++ '\r' :: '\n' :: b)
  /-- A piece has other blanks at its ends. -/
  | indent {a p p' b : List Char} (ha : OpensPiece a) (hp : IsPiece p) (hp' : IsPiece p')
    (hb : ClosesPiece b) (h : trim p = trim p') : Respaced (a ++ p ++ b) (a ++ p' ++ b)
  /-- A blank piece or a comment stands in front of another piece. -/
  | insert {a p : List Char} {c : Char} (ha : OpensPiece a) (hp : IsPiece p)
    (h : trim p = [] ∨ commentMark <+: trim p) (hc : isSeparator c = true) (b : List Char) :
    Respaced (a ++ b) (a ++ p ++ c :: b)
  /-- A blank piece or a comment stands at the end. -/
  | append {p : List Char} {c : Char} (hp : IsPiece p)
    (h : trim p = [] ∨ commentMark <+: trim p) (hc : isSeparator c = true) (a : List Char) :
    Respaced a (a ++ c :: p)

/-- Where a piece may begin, the statements of the texts before and behind are apart. -/
theorem OpensPiece.statements_append {a : List Char} (ha : OpensPiece a) (b : List Char) :
    statements (a ++ b) = statements a ++ statements b := by
  rcases List.eq_nil_or_concat a with rfl | ⟨init, c, rfl⟩
  · rfl
  · have hc : isSeparator c = true := ha c (by simp)
    rw [List.concat_eq_append, List.append_assoc, List.singleton_append, statements_append_cons hc,
      statements_append_cons hc, statements_nil, List.append_nil]

/-- Where a piece may end, the statements of the texts before and behind are apart. -/
theorem ClosesPiece.statements_append {b : List Char} (hb : ClosesPiece b) (a : List Char) :
    statements (a ++ b) = statements a ++ statements b := by
  cases b with
  | nil => rw [statements_nil, List.append_nil, List.append_nil]
  | cons c b =>
    have hc : isSeparator c = true := hb c rfl
    have hopen : statements (c :: b) = statements b := by
      have h := statements_append_cons hc [] b
      rwa [List.nil_append, statements_nil, List.nil_append] at h
    rw [statements_append_cons hc, hopen]

/-- A blank piece or a comment says nothing. -/
theorem IsPiece.statements_eq_nil {p : List Char} (hp : IsPiece p)
    (h : trim p = [] ∨ commentMark <+: trim p) : statements p = [] := by
  have hst : ¬ isStatement (trim p) = true := by
    rw [isStatement_iff, not_and_or, not_not, not_not]
    exact h
  rw [statements_of_forall hp, statementsAmong, List.map_singleton, List.filter_cons_of_neg hst,
    List.filter_nil]

/-- A carriage return at the end does not count. -/
theorem statements_concat_return (a : List Char) : statements (a ++ ['\r']) = statements a := by
  rw [statements_eq_among, statements_eq_among, statementsAmong, statementsAmong,
    map_trim_splitOnP_concat (by decide) (by decide)]

/-! ## Settings of a source -/

/-- One step to another setting leaves the statements as they are. -/
theorem Respaced.statements_eq {s s' : List Char} (h : Respaced s s') :
    statements s = statements s' := by
  cases h with
  | separator hc hc' a b => rw [statements_append_cons hc, statements_append_cons hc']
  | lineEnd a b =>
    have hreturn : a ++ '\r' :: '\n' :: b = (a ++ ['\r']) ++ '\n' :: b := by simp
    rw [hreturn, statements_append_cons (by decide), statements_append_cons (by decide),
      statements_concat_return]
  | @indent a p p' b ha hp hp' hb h =>
    have hpiece : statements p = statements p' := by
      rw [statements_of_forall hp, statements_of_forall hp', statementsAmong, statementsAmong,
        List.map_singleton, List.map_singleton, h]
    rw [hb.statements_append, hb.statements_append, ha.statements_append, ha.statements_append,
      hpiece]
  | @insert a p c ha hp h hc b =>
    rw [statements_append_cons hc, ha.statements_append, ha.statements_append,
      hp.statements_eq_nil h, List.append_nil]
  | @append p c hp h hc a =>
    rw [statements_append_cons hc, hp.statements_eq_nil h, List.append_nil]

/-- No setting of a source has other statements. -/
theorem statements_eq_of_eqvGen {s s' : List Char} (h : Relation.EqvGen Respaced s s') :
    statements s = statements s' := by
  induction h with
  | rel s s' hstep => exact hstep.statements_eq
  | refl s => rfl
  | symm s s' _ ih => exact ih.symm
  | trans s s' s'' _ _ ih ih' => exact ih.trans ih'

/-- Statements that are joined by separators are the same statements again. -/
theorem statements_intercalate_statements {c : Char} (hc : isSeparator c = true)
    (source : List Char) :
    statements ([c].intercalate (statements source)) = statements source :=
  statements_intercalate_of_mem hc fun _ hs => ⟨source, hs⟩

namespace Diagram

/-- A flow chart without a heading is the same with the heading of one that is read downwards. -/
theorem ofSource_heading_append {source first : List Char} {rest : List (List Char)}
    (hstatements : statements source = first :: rest)
    (hheading : Heading.ofStatements? first rest = some .missing) :
    ofSource ("flowchart TD".toList ++ '\n' :: source) = ofSource source := by
  have hline : statements "flowchart TD".toList = ["flowchart TD".toList] := by decide
  have hall : statements ("flowchart TD".toList ++ '\n' :: source) =
      "flowchart TD".toList :: first :: rest := by
    rw [statements_append_cons (by decide), hline, hstatements, List.singleton_append]
  have hopening : Heading.ofStatements? "flowchart TD".toList (first :: rest) =
      some (.flow .down) :=
    Flow.Chart.ofStatements?_heading .down _
  unfold ofSource
  rw [hall, hstatements, ofStatements, ofStatements, hopening, hheading]

/-- The setting of a source does not matter. Its statements are its pieces between newlines and
semicolons, trimmed, without the blank ones and the comments; a separator between two sources
separates their statements; and the statements joined by either separator are the same statements
again. So the source describes the same in every setting, and if it is a flow chart without a
heading, it describes the same below a heading. -/
theorem ofSource_spacing (source : List Char) :
    statements source =
      ((source.splitOnP fun c => c == '\n' || c == ';').map trim).filter (fun piece =>
        !piece.isEmpty && !("%%".toList).isPrefixOf piece) ∧
    (∀ c ∈ ['\n', ';'], ∀ more,
      statements (source ++ c :: more) = statements source ++ statements more) ∧
    (∀ c ∈ ['\n', ';'], statements ([c].intercalate (statements source)) = statements source) ∧
    (∀ source', Relation.EqvGen Respaced source source' →
      statements source' = statements source ∧ ofSource source' = ofSource source) ∧
    ∀ first rest, statements source = first :: rest →
      Heading.ofStatements? first rest = some .missing →
        ofSource ("flowchart TD".toList ++ '\n' :: source) = ofSource source := by
  have hseparator : ∀ c ∈ ['\n', ';'], isSeparator c = true := by decide
  refine ⟨statements_eq_among source, fun c hc => statements_append_cons (hseparator c hc) source,
    fun c hc => statements_intercalate_statements (hseparator c hc) source, fun source' h => ?_,
    fun first rest => ofSource_heading_append⟩
  have hstatements := statements_eq_of_eqvGen h
  exact ⟨hstatements.symm, congrArg ofStatements hstatements.symm⟩

/-- A source without a heading. -/
def looseSource : List Char := "A-->B\n C".toList

/-- The same with a comment in front of it, set with a semicolon. -/
def looseSource' : List Char := "%% x;A-->B\r\n C".toList

theorem eqvGen_looseSource : Relation.EqvGen Respaced looseSource looseSource' :=
  .trans _ _ _
    (.rel _ _ (.lineEnd "A-->B".toList " C".toList))
    (.rel _ _ (.insert (a := []) (p := "%% x".toList) (c := ';') nofun (by unfold IsPiece; decide)
      (by decide) (by decide) "A-->B\r\n C".toList))

theorem ofSource_spacing_loose :
    statements (looseSource ++ ';' :: "D".toList) =
        statements looseSource ++ statements "D".toList ∧
      statements ([';'].intercalate (statements looseSource)) = statements looseSource ∧
      (Relation.EqvGen Respaced looseSource looseSource' ∧
        ofSource looseSource' = ofSource looseSource) ∧
      Heading.ofStatements? "A-->B".toList ["C".toList] = some .missing ∧
        ofSource ("flowchart TD".toList ++ '\n' :: looseSource) = ofSource looseSource := by
  obtain ⟨-, happend, hjoin, hspaced, hheading⟩ := ofSource_spacing looseSource
  have hmissing : Heading.ofStatements? "A-->B".toList ["C".toList] = some .missing := by decide
  exact ⟨happend ';' (by decide) "D".toList, hjoin ';' (by decide),
    ⟨eqvGen_looseSource, (hspaced looseSource' eqvGen_looseSource).2⟩, hmissing,
    hheading _ _ (by decide) hmissing⟩

end Diagram

end TextDiagram
