import TextDiagram.Flow.Chart
import TextDiagram.Text.Affix
import TextDiagram.Text.Alphanumeric
import TextDiagram.Text.Words

/-!
# Node tokens

A node is written as an id, perhaps followed by a label in brackets. The brackets give the shape,
and the label may stand in quotes. The body of the brackets reaches to the end of the token, so it
may hold brackets itself. Main statement: an id is a longest run of its characters, and is not empty
(`Token.ofText?_eq_some`).
-/

namespace TextDiagram.Flow

open Text

/-- A node as a statement writes it. -/
structure Token where
  /-- The id of the node. -/
  id : List Char
  /-- The label, if the brackets hold one. -/
  label : Option (List Char)
  /-- The shape that the brackets give. -/
  shape : Shape
  deriving DecidableEq, Repr

/-- A pair of brackets around a label. -/
structure Brackets where
  /-- What stands before the label. -/
  opening : List Char
  /-- What stands after the label. -/
  closing : List Char
  /-- The shape that the brackets give. -/
  shape : Shape
  deriving DecidableEq, Repr

/-- The brackets in the order in which they are tried. -/
def Brackets.all : List Brackets :=
  [⟨"((".toList, "))".toList, .circle⟩, ⟨['['], [']'], .square⟩, ⟨['('], [')'], .round⟩,
   ⟨['\x7b'], ['\x7d'], .rhombus⟩]

/-- What the brackets enclose, if the text begins and ends with them. -/
def Brackets.body? (b : Brackets) (t : List Char) : Option (List Char) :=
  (after? b.opening t).bind (before? b.closing)

/-- The characters of an id. -/
def isIdChar (c : Char) : Bool :=
  isAlphanumeric c || c == '_' || c == '-'

/-- The quotes that may stand around a label. -/
def isQuote (c : Char) : Bool :=
  c == '"' || c == '\''

/-- The text without a quote at its start. -/
def withoutOpeningQuote : List Char → List Char
  | [] => []
  | c :: t => if isQuote c then t else c :: t

/-- The text without a quote at its end. -/
def withoutClosingQuote (t : List Char) : List Char :=
  (withoutOpeningQuote t.reverse).reverse

/-- The label in a body: the body without the blanks and quotes at its ends, unless nothing is left
of it. -/
def label? (body : List Char) : Option (List Char) :=
  let label := trim (withoutClosingQuote (withoutOpeningQuote (trim body)))
  if label.isEmpty then none else some label

/-- Reads a node. Nothing but the brackets and what they enclose may follow the id. -/
def Token.ofText? (t : List Char) : Option Token :=
  let id := (trim t).takeWhile isIdChar
  let rest := (trim t).dropWhile isIdChar
  if id.isEmpty then none
  else if rest.isEmpty then some ⟨id, none, .bare⟩
  else Brackets.all.findSome? fun b => (b.body? rest).map fun body => ⟨id, label? body, b.shape⟩

/-- The mention of a node that a token makes. -/
def Token.mention (t : Token) : Mention :=
  .node t.id t.label t.shape

/-- The id of a token is the longest run of id characters at the start, and is not empty. -/
theorem Token.ofText?_eq_some {t : List Char} {token : Token} (h : ofText? t = some token) :
    token.id = (trim t).takeWhile isIdChar ∧ token.id ≠ [] := by
  unfold ofText? at h
  simp only at h
  split at h
  · simp at h
  · next hid =>
    have hid : (trim t).takeWhile isIdChar ≠ [] := by simpa using hid
    split at h
    · cases h
      exact ⟨rfl, hid⟩
    · obtain ⟨b, _, hb⟩ := List.exists_of_findSome?_eq_some h
      obtain ⟨body, _, rfl⟩ := Option.map_eq_some_iff.1 hb
      exact ⟨rfl, hid⟩

end TextDiagram.Flow
