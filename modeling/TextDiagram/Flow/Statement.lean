import TextDiagram.Flow.Token

/-!
# Statements of a flow chart

A statement of a flow chart is a node token, or an edge: two node tokens with an operator between
them, and perhaps a label of the edge between bars, which is not kept. Statements that open with a
keyword of the richer language are passed over, and those that cannot be read are dropped. Main
statement: the parts of a cut make up the statement (`cut?_eq_some`).
-/

namespace TextDiagram.Flow

open Text

/-- The edge operators. Of those that occur at one place, the first in this list is meant. -/
def operators : List (List Char) :=
  ["<-->".toList, "-.->".toList, "-->".toList, "==>".toList, "---".toList, "<--".toList,
   "->".toList, "<-".toList]

/-- The words that open a statement without a node or an edge. -/
def keywords : List (List Char) :=
  ["subgraph".toList, "end".toList, "style".toList, "classDef".toList, "class".toList,
   "linkStyle".toList, "click".toList]

/-- A statement cut at an edge operator. -/
structure Cut where
  /-- What stands before the operator. -/
  before : List Char
  /-- The operator. -/
  operator : List Char
  /-- What stands after the operator. -/
  after : List Char
  deriving DecidableEq, Repr

/-- The operator at the start of a text, and what follows it. -/
def operatorAtStart? (t : List Char) : Option Cut :=
  operators.findSome? fun op => (after? op t).map fun after => ⟨[], op, after⟩

/-- Cuts a statement at the leftmost operator. -/
def cut? : List Char → Option Cut
  | [] => none
  | c :: t =>
    match operatorAtStart? (c :: t) with
    | some cut => some cut
    | none => (cut? t).map fun cut => { cut with before := c :: cut.before }

/-- What precedes an operator, without the blanks and the label of the edge at its end. -/
def withoutLabelAtEnd (t : List Char) : List Char :=
  match (trimEnd t).reverse with
  | '|' :: inner =>
    match inner.dropWhile (· != '|') with
    | _ :: front => front.reverse
    | [] => trimEnd t
  | _ => trimEnd t

/-- What follows an operator, without the blanks and the label of the edge at its start. -/
def withoutLabelAtStart (t : List Char) : List Char :=
  match trimStart t with
  | '|' :: inner =>
    match inner.dropWhile (· != '|') with
    | _ :: back => back
    | [] => trimStart t
  | _ => trimStart t

/-- What a statement says. -/
inductive Reading
  /-- It opens with a keyword and is passed over. -/
  | keyword
  /-- It is a node. -/
  | node (token : Token)
  /-- It is an edge between two nodes. -/
  | edge (source target : Token)
  /-- It has an operator, but not a node on each side. -/
  | brokenEdge
  /-- It has no operator and is no node. -/
  | unreadable
  deriving DecidableEq, Repr

/-- Reads a statement. -/
def read (statement : List Char) : Reading :=
  if keywords.contains (firstWord statement) then .keyword
  else match cut? statement with
    | some cut =>
      match Token.ofText? (withoutLabelAtEnd cut.before),
          Token.ofText? (withoutLabelAtStart cut.after) with
      | some source, some target => .edge source target
      | _, _ => .brokenEdge
    | none =>
      match Token.ofText? statement with
      | some token => .node token
      | none => .unreadable

/-- What a statement adds to a chart. -/
def Reading.mentions : Reading → List Mention
  | .node token => [token.mention]
  | .edge source target => [source.mention, target.mention, .edge source.id target.id]
  | .keyword | .brokenEdge | .unreadable => []

/-- The chart that a list of statements describes. -/
def Chart.ofStatements (statements : List (List Char)) : Chart :=
  .ofMentions (statements.flatMap fun statement => (read statement).mentions)

/-! ## Cuts -/

/-- An operator at the start and what follows it make up the text. -/
theorem operatorAtStart?_eq_some {t : List Char} {cut : Cut} (h : operatorAtStart? t = some cut) :
    cut.before = [] ∧ cut.operator ∈ operators ∧ t = cut.operator ++ cut.after := by
  obtain ⟨op, hop, h⟩ := List.exists_of_findSome?_eq_some h
  obtain ⟨after, hafter, rfl⟩ := Option.map_eq_some_iff.1 h
  exact ⟨rfl, hop, after?_eq_some_iff.1 hafter⟩

/-- The parts of a cut make up the statement, and the part between the others is an operator. -/
theorem cut?_eq_some {t : List Char} {cut : Cut} (h : cut? t = some cut) :
    cut.operator ∈ operators ∧ t = cut.before ++ cut.operator ++ cut.after := by
  induction t generalizing cut with
  | nil => simp [cut?] at h
  | cons c t ih =>
    unfold cut? at h
    split at h
    · next found heq =>
      obtain ⟨hb, hop, ht⟩ := operatorAtStart?_eq_some heq
      cases h
      simpa [hb] using ⟨hop, ht⟩
    · obtain ⟨cut', h', rfl⟩ := Option.map_eq_some_iff.1 h
      obtain ⟨hop, ht⟩ := ih h'
      exact ⟨hop, by simpa using ht⟩

end TextDiagram.Flow
