import Mathlib.Data.List.Basic
import Mathlib.Tactic.Common
import TextDiagram.Svg.Node

/-!
# The text of an element

An element is printed in pieces: the opening of its tag, its attributes, its children on lines of
their own, and its closing tag (`print_element`). Names are of letters, digits and hyphens and
values are escaped, so that within an attribute no tag begins or ends
(`not_mem_printAttribute`). The nodes of a tree are listed from the top down (`Node.subnodes`).
-/

namespace TextDiagram.Svg

/-- A name of an element or of an attribute: letters, digits and hyphens. -/
def isName (name : String) : Bool :=
  !name.toList.isEmpty && name.toList.all fun c => c.isAlphanum || c == '-'

/-- A text holds no character that opens or closes markup or quotes. -/
def IsQuiet (t : List Char) : Prop :=
  ∀ c ∈ ['<', '>', '"', '\''], c ∉ t

theorem isQuiet_escape (t : List Char) : IsQuiet (escape t) :=
  fun _ hc => not_mem_escape hc t

theorem isQuiet_nil : IsQuiet [] :=
  fun _ _ => List.not_mem_nil

theorem equals_not_mem_escape {t : List Char} (h : '=' ∉ t) : '=' ∉ escape t := by
  intro hmem
  obtain ⟨c, hc, hmem⟩ := List.mem_flatMap.mp hmem
  unfold escapeChar at hmem
  split at hmem
  case h_6 => exact h (List.mem_singleton.mp hmem ▸ hc)
  all_goals exact absurd hmem (by decide)

theorem not_mem_of_isName {name : String} (h : isName name = true) {c : Char}
    (hc : (c.isAlphanum || c == '-') = false) : c ∉ name.toList := by
  intro hmem
  have hall := (Bool.and_eq_true_iff.mp h).2
  have hname := List.all_eq_true.mp hall c hmem
  rw [hc] at hname
  cases hname

/-! ## The nodes of a tree -/

section Subnodes

variable {α : Type}

/-- What holds of lines, and of an element if it holds of its children, holds of all nodes. -/
theorem Node.induct {P : Node α → Prop} (line : ∀ chars, P (.line chars))
    (element : ∀ name attributes children, (∀ child ∈ children, P child) →
      P (.element name attributes children)) (node : Node α) : P node :=
  Node.rec (motive_1 := P) (motive_2 := fun nodes => ∀ node ∈ nodes, P node) element line
    (fun _ h => absurd h List.not_mem_nil) (fun _ _ hnode hnodes => List.forall_mem_cons.mpr
      ⟨hnode, hnodes⟩) node

mutual

/-- The nodes of a tree, each before its children. -/
def Node.subnodes : Node α → List (Node α)
  | .line chars => [.line chars]
  | .element name attributes children =>
    .element name attributes children :: subnodesAmong children

/-- The nodes of some trees. -/
def subnodesAmong : List (Node α) → List (Node α)
  | [] => []
  | node :: nodes => node.subnodes ++ subnodesAmong nodes

end

theorem subnodesAmong_eq_flatMap (nodes : List (Node α)) :
    subnodesAmong nodes = nodes.flatMap Node.subnodes := by
  induction nodes with
  | nil => rfl
  | cons node nodes ih =>
    rw [subnodesAmong, ih, List.flatMap_cons]

@[simp] theorem subnodes_line (chars : List Char) :
    (Node.line chars : Node α).subnodes = [.line chars] := rfl

@[simp] theorem subnodes_element (name : String) (attributes : List (String × Value α))
    (children : List (Node α)) : (Node.element name attributes children).subnodes =
      .element name attributes children :: children.flatMap Node.subnodes := by
  rw [Node.subnodes, subnodesAmong_eq_flatMap]

end Subnodes

/-! ## Printed elements -/

section Pieces

variable {α : Type} (number : α → List Char)

theorem printLines_eq_flatMap (nodes : List (Node α)) :
    printLines number nodes = nodes.flatMap fun node => '\n' :: node.print number := by
  induction nodes with
  | nil => rfl
  | cons node nodes ih =>
    rw [printLines, ih, List.flatMap_cons]

theorem printLines_append (nodes more : List (Node α)) :
    printLines number (nodes ++ more) = printLines number nodes ++ printLines number more := by
  simp only [printLines_eq_flatMap, List.flatMap_append]

/-- What follows the attributes of an element, in pieces: its children and its closing tag. -/
def bodyPieces (name : String) : List (Node α) → List (List Char)
  | [] => ["/>".toList]
  | child :: children =>
    ['>'] :: (child :: children).map (fun node => '\n' :: node.print number) ++
      [['\n'], '<' :: '/' :: name.toList, ['>']]

theorem exists_head?_bodyPieces {name : String} {children : List (Node α)} {piece : List Char}
    (h : piece ∈ bodyPieces number name children) :
    ∃ c ∈ piece.head?, c ∈ ['<', ' ', '\n', '/', '>'] := by
  cases children with
  | nil =>
    rw [List.mem_singleton.mp h]
    exact ⟨'/', rfl, by simp⟩
  | cons child children =>
    simp only [bodyPieces, List.cons_append, List.mem_cons, List.mem_append, List.mem_map,
      List.not_mem_nil, or_false] at h
    rcases h with rfl | ⟨node, _, rfl⟩ | rfl | rfl | rfl
    · exact ⟨'>', rfl, by simp⟩
    · exact ⟨'\n', rfl, by simp⟩
    · exact ⟨'\n', rfl, by simp⟩
    · exact ⟨'<', rfl, by simp⟩
    · exact ⟨'>', rfl, by simp⟩

/-- An element is printed in pieces. -/
theorem print_element (name : String) (attributes : List (String × Value α))
    (children : List (Node α)) : (Node.element name attributes children).print number =
      (('<' :: name.toList) :: attributes.map (printAttribute number) ++
        bodyPieces number name children).flatten := by
  cases children with
  | nil => simp [Node.print, bodyPieces, List.flatMap_def]
  | cons child children =>
    simp [Node.print, printLines_eq_flatMap, bodyPieces, List.flatMap_def]

/-- In an attribute no tag begins or ends. -/
theorem not_mem_printAttribute {entry : String × Value α} (h : isName entry.1 = true) {c : Char}
    (hc : c ∈ ['<', '>']) : c ∉ printAttribute number entry := by
  have hother : c ∈ ['<', '>', '"', '\''] ∧ (c.isAlphanum || c == '-') = false ∧
      c ∉ [' '] ∧ c ∉ "=\"".toList ∧ c ∉ ['"'] := by
    simp only [List.mem_cons, List.not_mem_nil, or_false] at hc
    rcases hc with rfl | rfl
    · decide
    · decide
  obtain ⟨hquiet, hname, hspace, hequals, hquote⟩ := hother
  have hkey : c ∉ entry.1.toList := not_mem_of_isName h hname
  have hvalue : c ∉ escape (entry.2.print number) := not_mem_escape hquiet _
  have hstart : c ∉ ' ' :: entry.1.toList := by
    rw [List.mem_cons, not_or]
    exact ⟨fun heq => hspace (List.mem_singleton.mpr heq), hkey⟩
  unfold printAttribute
  simp only [List.mem_append, not_or]
  exact ⟨⟨⟨hstart, hequals⟩, hvalue⟩, hquote⟩

end Pieces

end TextDiagram.Svg
