import Mathlib.Data.List.Infix
import TextDiagram.Diagram
import TextDiagram.Proofs.Flow.Edge
import TextDiagram.Proofs.Statement

/-!
# Writing a flow chart

A chart can be written as a source: a heading with the direction, then a line for each node, then a
line for each edge. Main statement: the source of a chart describes that chart
(`ofSource_written`), whatever its labels hold but separators and operators.
-/

namespace TextDiagram.Flow

open Text
open scoped ItemByItem

/-! ## Lines -/

/-- A node as a line: the id, and the label in quotes between the brackets of the shape. -/
def Node.written (n : Node) : List Char :=
  match n.shape with
  | .bare => n.id
  | .square => n.id ++ "[\"".toList ++ n.label ++ "\"]".toList
  | .round => n.id ++ "(\"".toList ++ n.label ++ "\")".toList
  | .circle => n.id ++ "((\"".toList ++ n.label ++ "\"))".toList
  | .rhombus => n.id ++ "\x7b\"".toList ++ n.label ++ "\"\x7d".toList

/-- An edge as a line. -/
def Edge.written (e : Edge) : List Char :=
  e.source ++ " --> ".toList ++ e.target

/-- The lines of a chart. -/
def Chart.writtenLines (c : Chart) (direction : Direction) : List (List Char) :=
  ("flowchart ".toList ++ direction.code) :: (c.nodes.map Node.written ++ c.edges.map Edge.written)

/-- A chart as a source. -/
def Chart.written (c : Chart) (direction : Direction) : List Char :=
  ['\n'].intercalate (c.writtenLines direction)

/-! ## What can be written -/

/-- An id that can stand in front of brackets and at either end of an edge. -/
structure IsWritableId (id : List Char) : Prop where
  ne_nil : id ≠ []
  isIdChar : ∀ c ∈ id, isIdChar c = true
  no_dashes : ¬ "---".toList <:+: id
  no_keyword : id ∉ keywords

/-- A node that can be written. -/
structure Node.IsWritable (n : Node) : Prop where
  id : IsWritableId n.id
  label_ne_nil : n.label ≠ []
  label_trim : trim n.label = n.label
  label_no_newline : '\n' ∉ n.label
  label_no_semicolon : ';' ∉ n.label
  label_no_operator : ¬ HasOperator n.label
  bare : n.shape = .bare → n.label = n.id

/-- A chart that can be written: it has a node, its ids are distinct, and its edges lead from node
to node. -/
structure Chart.IsWritable (c : Chart) : Prop where
  nodes_ne_nil : c.nodes ≠ []
  nodup : c.ids.Nodup
  nodes : ∀ n ∈ c.nodes, n.IsWritable
  edges : ∀ e ∈ c.edges, e.source ∈ c.ids ∧ e.target ∈ c.ids

instance (id : List Char) : Decidable (IsWritableId id) :=
  decidable_of_iff
    (id ≠ [] ∧ (∀ c ∈ id, isIdChar c = true) ∧ ¬ "---".toList <:+: id ∧ id ∉ keywords)
    ⟨fun ⟨h₁, h₂, h₃, h₄⟩ => ⟨h₁, h₂, h₃, h₄⟩, fun ⟨h₁, h₂, h₃, h₄⟩ => ⟨h₁, h₂, h₃, h₄⟩⟩

instance (n : Node) : Decidable n.IsWritable :=
  decidable_of_iff
    (IsWritableId n.id ∧ n.label ≠ [] ∧ trim n.label = n.label ∧ '\n' ∉ n.label ∧
      ';' ∉ n.label ∧ ¬ HasOperator n.label ∧ (n.shape = .bare → n.label = n.id))
    ⟨fun ⟨h₁, h₂, h₃, h₄, h₅, h₆, h₇⟩ => ⟨h₁, h₂, h₃, h₄, h₅, h₆, h₇⟩,
      fun ⟨h₁, h₂, h₃, h₄, h₅, h₆, h₇⟩ => ⟨h₁, h₂, h₃, h₄, h₅, h₆, h₇⟩⟩

instance (c : Chart) : Decidable c.IsWritable :=
  decidable_of_iff
    (c.nodes ≠ [] ∧ c.ids.Nodup ∧ (∀ n ∈ c.nodes, n.IsWritable) ∧
      ∀ e ∈ c.edges, e.source ∈ c.ids ∧ e.target ∈ c.ids)
    ⟨fun ⟨h₁, h₂, h₃, h₄⟩ => ⟨h₁, h₂, h₃, h₄⟩, fun ⟨h₁, h₂, h₃, h₄⟩ => ⟨h₁, h₂, h₃, h₄⟩⟩

/-! ## Ids -/

/-- Each operator but the dashes has a character that no id has. -/
theorem eq_dashes_of_isIdChar {op : List Char} (hop : op ∈ operators)
    (h : ∀ c ∈ op, isIdChar c = true) : op = "---".toList := by
  revert op
  decide

namespace IsWritableId

variable {id : List Char} (h : IsWritableId id)
include h

theorem not_hasOperator : ¬ HasOperator id := by
  rintro ⟨op, hop, hin⟩
  have heq := eq_dashes_of_isIdChar hop fun c hc => h.isIdChar c (hin.subset hc)
  exact h.no_dashes (heq ▸ hin)

theorem isBlank_eq_false : ∀ c ∈ id, isBlank c = false :=
  fun c hc => isBlank_of_isIdChar (h.isIdChar c hc)

theorem isSeparator_eq_false : ∀ c ∈ id, isSeparator c = false :=
  isSeparator_eq_false_of_not_mem
    (fun hc => absurd (h.isIdChar '\n' hc) (by decide))
    fun hc => absurd (h.isIdChar ';' hc) (by decide)

/-- A text that opens with an id says something. -/
theorem isStatement_append (t : List Char) : isStatement (id ++ t) = true := by
  rw [isStatement_iff]
  refine ⟨by simp [h.ne_nil], ?_⟩
  intro hp
  obtain ⟨c, rest, rfl⟩ := List.exists_cons_of_ne_nil h.ne_nil
  obtain ⟨u, hu⟩ := hp
  have hc : c = '%' := (List.cons.inj hu).1.symm
  have hid := h.isIdChar c (List.mem_cons_self ..)
  rw [hc] at hid
  exact absurd hid (by decide)

/-- A text that opens with an id and ends without a blank is its own trim. -/
theorem trim_append_concat (t : List Char) {c : Char} (hc : isBlank c = false) :
    trim (id ++ (t ++ [c])) = id ++ (t ++ [c]) := by
  rw [trim_eq_self_iff]
  constructor
  · intro d hd
    rw [List.head?_append_of_ne_nil id h.ne_nil] at hd
    exact h.isBlank_eq_false d (List.mem_of_mem_head? hd)
  · intro d hd
    rw [← List.append_assoc, List.getLast?_concat] at hd
    cases hd
    exact hc

end IsWritableId

/-! ## Nodes in brackets -/

/-- A label in quotes between brackets. -/
def Brackets.quoted (b : Brackets) (label : List Char) : List Char :=
  b.opening ++ '"' :: (label ++ ['"']) ++ b.closing

/-- A node that is not bare is written with the brackets of its shape. -/
theorem Node.written_eq_quoted {n : Node} (h : n.shape ≠ .bare) :
    ∃ b ∈ Brackets.all, b.shape = n.shape ∧ n.written = n.id ++ b.quoted n.label := by
  obtain ⟨id, label, shape⟩ := n
  cases shape with
  | bare => exact absurd rfl h
  | square => exact ⟨_, .tail _ (.head _), rfl, by simp [Node.written, Brackets.quoted]⟩
  | round => exact ⟨_, .tail _ (.tail _ (.head _)), rfl, by simp [Node.written, Brackets.quoted]⟩
  | circle => exact ⟨_, .head _, rfl, by simp [Node.written, Brackets.quoted]⟩
  | rhombus =>
    exact ⟨_, .tail _ (.tail _ (.tail _ (.head _))), rfl, by simp [Node.written, Brackets.quoted]⟩

/-- A character that bounds what stands before it: no id, operator or keyword holds it, and it is
neither blank nor a separator. -/
structure IsBound (c : Char) : Prop where
  isIdChar : isIdChar c = false
  isBlank : isBlank c = false
  isSeparator : isSeparator c = false
  operators : ∀ op ∈ operators, c ∉ op
  keywords : ∀ word ∈ keywords, c ∉ word

instance (c : Char) : Decidable (IsBound c) :=
  decidable_of_iff
    (isIdChar c = false ∧ isBlank c = false ∧ isSeparator c = false ∧
      (∀ op ∈ operators, c ∉ op) ∧ ∀ word ∈ keywords, c ∉ word)
    ⟨fun ⟨h₁, h₂, h₃, h₄, h₅⟩ => ⟨h₁, h₂, h₃, h₄, h₅⟩,
      fun ⟨h₁, h₂, h₃, h₄, h₅⟩ => ⟨h₁, h₂, h₃, h₄, h₅⟩⟩

theorem isBound_quote : IsBound '"' := by
  decide

namespace Brackets

variable {b : Brackets} (hb : b ∈ all)
include hb

theorem isBound_opening : ∀ c ∈ b.opening, IsBound c := by
  revert b
  decide

theorem isBound_closing : ∀ c ∈ b.closing, IsBound c := by
  revert b
  decide

theorem opening_ne_nil : b.opening ≠ [] := by
  revert b
  decide

theorem closing_ne_nil : b.closing ≠ [] := by
  revert b
  decide

/-- Brackets and quotes around a label bring no separator. -/
theorem isSeparator_quoted {label : List Char} (h : ∀ c ∈ label, isSeparator c = false) :
    ∀ c ∈ b.quoted label, isSeparator c = false := by
  intro c hc
  simp only [quoted, List.mem_append, List.mem_cons, List.not_mem_nil, or_false] at hc
  rcases hc with (hc | rfl | hc | rfl) | hc
  · exact (isBound_opening hb c hc).isSeparator
  · exact isBound_quote.isSeparator
  · exact h c hc
  · exact isBound_quote.isSeparator
  · exact (isBound_closing hb c hc).isSeparator

/-- A node in brackets is its own trim. -/
theorem trim_append_quoted {id : List Char} (h : IsWritableId id) (label : List Char) :
    trim (id ++ b.quoted label) = id ++ b.quoted label := by
  obtain ⟨init, last, hlast⟩ :=
    (List.eq_nil_or_concat b.closing).resolve_left (closing_ne_nil hb)
  have hc := isBound_closing hb last (by simp [hlast])
  have hsplit : b.quoted label = (b.opening ++ '"' :: (label ++ ['"']) ++ init) ++ [last] := by
    simp [quoted, hlast]
  rw [hsplit]
  exact h.trim_append_concat _ hc.isBlank

/-- Brackets and quotes around a label bring no operator. -/
theorem hasOperator_append_quoted {id label : List Char} (hid : ¬ HasOperator id)
    (hlabel : ¬ HasOperator label) : ¬ HasOperator (id ++ b.quoted label) := by
  obtain ⟨o, os, ho⟩ := List.exists_cons_of_ne_nil (opening_ne_nil hb)
  have hopen : ∀ c ∈ o :: os, ∀ op ∈ operators, c ∉ op := fun c hc =>
    (isBound_opening hb c (ho ▸ hc)).operators
  have hclose : ∀ c ∈ b.closing, ∀ op ∈ operators, c ∉ op := fun c hc =>
    (isBound_closing hb c hc).operators
  have hsplit : id ++ b.quoted label = id ++ o :: (os ++ '"' :: (label ++ '"' :: b.closing)) := by
    simp [quoted, ho]
  rw [hsplit, hasOperator_append_cons_iff (hopen o (List.mem_cons_self ..)),
    hasOperator_append_cons_iff isBound_quote.operators,
    hasOperator_append_cons_iff isBound_quote.operators]
  rintro (h | h | h | h)
  · exact hid h
  · exact not_hasOperator_of_forall (fun c hc => hopen c (List.mem_cons_of_mem _ hc)) h
  · exact hlabel h
  · exact not_hasOperator_of_forall hclose h

/-- The first word of a node in brackets is no keyword. -/
theorem firstWord_append_quoted {id : List Char} (h : IsWritableId id) (label : List Char) :
    firstWord (id ++ b.quoted label) ∉ keywords := by
  intro hk
  obtain ⟨o, os, ho⟩ := List.exists_cons_of_ne_nil (opening_ne_nil hb)
  have hopen := isBound_opening hb o (by simp [ho])
  have hblank : ∀ c ∈ id ++ [o], isBlank c = false :=
    List.forall_mem_append.mpr ⟨h.isBlank_eq_false, List.forall_mem_singleton.mpr hopen.isBlank⟩
  have hsplit : id ++ b.quoted label =
      (id ++ [o]) ++ (os ++ '"' :: (label ++ '"' :: b.closing)) := by
    simp [quoted, ho]
  rw [hsplit] at hk
  have hp := prefix_firstWord_append (by simp) hblank (os ++ '"' :: (label ++ '"' :: b.closing))
  exact hopen.keywords _ hk (hp.subset (by simp))

/-- A node in brackets is read with its label and the shape of the brackets. -/
theorem ofText?_append_quoted {id label : List Char} (h : IsWritableId id) (hne : label ≠ [])
    (htrim : trim label = label) :
    Token.ofText? (id ++ b.quoted label) = some ⟨id, some label, b.shape⟩ := by
  have hrest : ∀ c ∈ (b.quoted label).head?, isIdChar c = false := by
    intro c hc
    rw [quoted, List.append_assoc, List.head?_append_of_ne_nil _ (opening_ne_nil hb)] at hc
    exact (isBound_opening hb c (List.mem_of_mem_head? hc)).isIdChar
  have hfind := findSome?_body? hb (label ++ ['"']) fun b body =>
    (⟨id, label? body, b.shape⟩ : Token)
  have hlabel : label? ('"' :: (label ++ ['"'])) = some label := label?_quoted hne htrim
  rw [Token.ofText?_append h.ne_nil h.isIdChar hrest (trim_append_quoted hb h label),
    if_neg (by simp [quoted, opening_ne_nil hb])]
  rw [hlabel] at hfind
  exact hfind

end Brackets

/-! ## Reading the lines -/

/-- The token that the line of a node is. -/
def Node.token (n : Node) : Token :=
  ⟨n.id, if n.shape = .bare then none else some n.label, n.shape⟩

namespace Node

variable {n : Node} (h : n.IsWritable)
include h

/-- The line of a node is a statement of its own. -/
theorem written_standsAlone :
    (∀ c ∈ n.written, isSeparator c = false) ∧ trim n.written = n.written ∧
      isStatement n.written = true := by
  by_cases hs : n.shape = .bare
  · have hw : n.written = n.id := by simp [written, hs]
    rw [hw]
    have hst := h.id.isStatement_append []
    rw [List.append_nil] at hst
    exact ⟨h.id.isSeparator_eq_false, trim_of_isIdChar h.id.isIdChar, hst⟩
  · obtain ⟨b, hb, _, hw⟩ := written_eq_quoted hs
    rw [hw]
    refine ⟨?_, Brackets.trim_append_quoted hb h.id n.label, h.id.isStatement_append _⟩
    intro c hc
    rcases List.mem_append.mp hc with hc | hc
    · exact h.id.isSeparator_eq_false c hc
    · exact Brackets.isSeparator_quoted hb
        (isSeparator_eq_false_of_not_mem h.label_no_newline h.label_no_semicolon) c hc

/-- The line of a node is read as the node. -/
theorem read_written : read n.written = .node n.token := by
  by_cases hs : n.shape = .bare
  · have hw : n.written = n.id := by simp [written, hs]
    have hkey : firstWord n.id ∉ keywords := by
      rw [firstWord, words_eq_singleton h.id.ne_nil h.id.isBlank_eq_false]
      exact h.id.no_keyword
    have hcut : cut? n.id = none := cut?_eq_none_iff.mpr h.id.not_hasOperator
    have htoken : Token.ofText? n.id = some n.token := by
      rw [Token.ofText?_id h.id.ne_nil h.id.isIdChar, token, if_pos hs, hs]
    rw [hw, read, if_neg (by simpa using hkey), hcut, htoken]
  · obtain ⟨b, hb, hshape, hw⟩ := written_eq_quoted hs
    have hkey := Brackets.firstWord_append_quoted hb h.id n.label
    have hcut : cut? (n.id ++ b.quoted n.label) = none :=
      cut?_eq_none_iff.mpr
        (Brackets.hasOperator_append_quoted hb h.id.not_hasOperator h.label_no_operator)
    have htoken : Token.ofText? (n.id ++ b.quoted n.label) = some n.token := by
      rw [Brackets.ofText?_append_quoted hb h.id h.label_ne_nil h.label_trim, token, if_neg hs,
        hshape]
    rw [hw, read, if_neg (by simpa using hkey), hcut, htoken]

end Node

namespace Edge

/-- The parts of the line of an edge. -/
def line (e : Edge) : EdgeLine where
  source := e.source
  operator := "-->".toList
  target := e.target
  label := .none
  gap₁ := [' ']
  gap₂ := [' ']
  gap₃ := []

theorem written_eq_line (e : Edge) : e.written = e.line.written := by
  simp [written, line, EdgeLine.written, EdgeLine.before, EdgeLine.after]

variable {e : Edge} (hs : IsWritableId e.source)
include hs

variable (ht : IsWritableId e.target)
include ht

/-- The line of an edge is a statement of its own. -/
theorem written_standsAlone :
    (∀ c ∈ e.written, isSeparator c = false) ∧ trim e.written = e.written ∧
      isStatement e.written = true := by
  have harrow : ∀ c ∈ " --> ".toList, isSeparator c = false := by decide
  have hsplit : e.written = e.source ++ (" --> ".toList ++ e.target) := List.append_assoc ..
  obtain ⟨init, last, hlast⟩ := (List.eq_nil_or_concat e.target).resolve_left ht.ne_nil
  rw [List.concat_eq_append] at hlast
  refine ⟨?_, ?_, ?_⟩
  · intro c hc
    simp only [written, List.mem_append] at hc
    rcases hc with (hc | hc) | hc
    · exact hs.isSeparator_eq_false c hc
    · exact harrow c hc
    · exact ht.isSeparator_eq_false c hc
  · rw [hsplit, hlast, ← List.append_assoc " --> ".toList]
    exact hs.trim_append_concat _ (ht.isBlank_eq_false last (by simp [hlast]))
  · rw [hsplit]
    exact hs.isStatement_append _

theorem isReadable_line : e.line.IsReadable where
  source_trim := trim_of_isIdChar hs.isIdChar
  source_no_operator := hs.not_hasOperator
  target_trim := trim_of_isIdChar ht.isIdChar
  operator_mem := by
    show "-->".toList ∈ operators
    decide
  blank := by
    show ∀ c ∈ [' '] ++ [' '] ++ [], isBlank c = true
    decide
  label := trivial
  no_dash_before := Or.inl (List.cons_ne_nil ' ' [])
  no_dash_after := nofun
  no_keyword := by
    have hsplit : e.written = e.source ++ ' ' :: ("--> ".toList ++ e.target) := by
      simp [written]
    rw [← written_eq_line, hsplit, firstWord_append_cons hs.ne_nil hs.isBlank_eq_false (by decide)]
    exact hs.no_keyword

/-- The line of an edge is read as the edge between two bare nodes. -/
theorem read_written :
    read e.written = .edge ⟨e.source, none, .bare⟩ ⟨e.target, none, .bare⟩ := by
  rw [written_eq_line]
  exact (isReadable_line hs ht).read_eq_edge (Token.ofText?_id hs.ne_nil hs.isIdChar)
    (Token.ofText?_id ht.ne_nil ht.isIdChar)

end Edge

/-! ## Mentioning nodes and edges -/

namespace Chart

/-- The line of a new node adds the node. -/
theorem mention_token {c : Chart} {n : Node} (h : n.IsWritable) (hnew : n.id ∉ c.ids) :
    c.mention n.token.mention = { c with nodes := c.nodes ++ [n] } := by
  have hreg := register_of_not_mem hnew n.token.label n.token.shape
  have hnode : Node.mentioned n.id (n.token.label.filter fun label => !label.isEmpty)
      n.token.shape = n := by
    obtain ⟨id, label, shape⟩ := n
    by_cases hs : shape = .bare
    · subst hs
      have hl : label = id := h.bare rfl
      simp [Node.token, Node.mentioned, Node.bare, hl]
    · have hl : (!label.isEmpty) = true := by simpa using h.label_ne_nil
      simp [Node.token, Node.mentioned, hs, Option.filter_some, hl]
  rw [hnode] at hreg
  exact hreg

/-- The line of an edge between known nodes adds the edge. -/
theorem foldl_mention_edge {c : Chart} {e : Edge} (hs : e.source ∈ c.ids)
    (ht : e.target ∈ c.ids) :
    (Reading.edge ⟨e.source, none, .bare⟩ ⟨e.target, none, .bare⟩).mentions.foldl mention c =
      { c with edges := c.edges ++ [e] } := by
  simp only [Reading.mentions, List.foldl_cons, List.foldl_nil, Token.mention, mention]
  rw [register_none_of_mem hs, register_none_of_mem ht, connect_of_mem hs ht]

/-- The lines of some new nodes add the nodes. -/
theorem foldl_mention_nodes {nodes : List Node} {c : Chart} (hw : ∀ n ∈ nodes, n.IsWritable)
    (hnd : (c.ids ++ nodes.map Node.id).Nodup) :
    (nodes.flatMap fun n => (read n.written).mentions).foldl mention c =
      { c with nodes := c.nodes ++ nodes } := by
  -- what is known and what is still to come stay distinct, so every node is new in its turn
  induction nodes generalizing c with
  | nil => simp
  | cons n nodes ih =>
    have hn : n.IsWritable := hw n (List.mem_cons_self ..)
    have hnew : n.id ∉ c.ids := by
      intro hc
      exact (List.nodup_append.mp hnd).2.2 _ hc n.id (List.mem_cons_self ..) rfl
    have hread : (read n.written).mentions = [n.token.mention] := by
      rw [Node.read_written hn]
      rfl
    rw [List.flatMap_cons, hread, List.singleton_append, List.foldl_cons, mention_token hn hnew,
      ih fun m hm => hw m (List.mem_cons_of_mem _ hm)]
    · simp
    · simpa [ids] using hnd

/-- The lines of some edges between known nodes add the edges. -/
theorem foldl_mention_edges {edges : List Edge} {c : Chart}
    (hw : ∀ e ∈ edges, IsWritableId e.source ∧ IsWritableId e.target)
    (hmem : ∀ e ∈ edges, e.source ∈ c.ids ∧ e.target ∈ c.ids) :
    (edges.flatMap fun e => (read e.written).mentions).foldl mention c =
      { c with edges := c.edges ++ edges } := by
  induction edges generalizing c with
  | nil => simp
  | cons e edges ih =>
    obtain ⟨hs, ht⟩ := hw e (List.mem_cons_self ..)
    obtain ⟨hms, hmt⟩ := hmem e (List.mem_cons_self ..)
    rw [List.flatMap_cons, List.foldl_append, Edge.read_written hs ht,
      foldl_mention_edge hms hmt, ih fun e' he => hw e' (List.mem_cons_of_mem _ he)]
    · simp
    · exact fun e' he => hmem e' (List.mem_cons_of_mem _ he)

namespace IsWritable

variable {c : Chart} (h : c.IsWritable)
include h

/-- The ends of an edge have ids that can be written. -/
theorem edge_ends : ∀ e ∈ c.edges, IsWritableId e.source ∧ IsWritableId e.target := by
  have hid : ∀ id ∈ c.ids, IsWritableId id := by
    intro id hmem
    obtain ⟨n, hn, rfl⟩ := List.mem_map.mp hmem
    exact (h.nodes n hn).id
  exact fun e he => ⟨hid _ (h.edges e he).1, hid _ (h.edges e he).2⟩

/-- The lines of the nodes and edges describe the chart. -/
theorem ofStatements_written :
    ofStatements (c.nodes.map Node.written ++ c.edges.map Edge.written) = c := by
  have hnodes := foldl_mention_nodes (c := empty) h.nodes h.nodup
  have hedges := foldl_mention_edges (c := ⟨c.nodes, []⟩) h.edge_ends h.edges
  unfold ofStatements ofMentions
  rw [List.flatMap_append, List.foldl_append, List.flatMap_map, List.flatMap_map, hnodes]
  exact hedges

/-- Every line of a chart is a statement of its own. -/
theorem writtenLines_standAlone (direction : Direction) :
    ∀ l ∈ c.writtenLines direction,
      (∀ x ∈ l, isSeparator x = false) ∧ trim l = l ∧ isStatement l = true := by
  intro l hl
  rcases List.mem_cons.mp hl with rfl | hl
  · cases direction <;> decide
  · rcases List.mem_append.mp hl with hl | hl
    · obtain ⟨n, hn, rfl⟩ := List.mem_map.mp hl
      exact Node.written_standsAlone (h.nodes n hn)
    · obtain ⟨e, he, rfl⟩ := List.mem_map.mp hl
      exact Edge.written_standsAlone (h.edge_ends e he).1 (h.edge_ends e he).2

/-- The statements of the source of a chart are its lines, with or without a last newline. -/
theorem statements_written (direction : Direction) :
    statements (c.written direction) = c.writtenLines direction ∧
      statements (c.written direction ++ ['\n']) = c.writtenLines direction := by
  have hlines := h.writtenLines_standAlone direction
  have htrim : (c.writtenLines direction).map trim = c.writtenLines direction :=
    (List.map_congr_left fun l hl => (hlines l hl).2.1).trans (List.map_id' _)
  have hstatements := statements_intercalate_newline (fun l hl => (hlines l hl).1)
    fun l hl => by
      rw [(hlines l hl).2.1]
      exact (hlines l hl).2.2
  rw [htrim] at hstatements
  exact hstatements

end IsWritable

/-- The heading of a flow chart gives the direction. -/
theorem ofStatements?_heading (direction : Direction) (rest : List (List Char)) :
    Heading.ofStatements? ("flowchart ".toList ++ direction.code) rest =
      some (.flow direction) := by
  have hseq : ∀ d : Direction,
      ¬ sequenceOpening.isPrefixOf (lowercase ("flowchart ".toList ++ d.code)) = true := by
    intro d
    cases d <;> decide
  have hflow : ∀ d : Direction, flowOpenings.contains
      (lowercase (firstWord ("flowchart ".toList ++ d.code))) = true := by
    intro d
    cases d <;> decide
  have hdir : ∀ d : Direction, headingDirection ("flowchart ".toList ++ d.code) = d := by
    intro d
    cases d <;> decide
  unfold Heading.ofStatements?
  rw [if_neg (hseq direction), if_pos (hflow direction), hdir direction]

/-- The source of a chart, with or without a last newline, describes the chart: its nodes and its
edges in their order, and its direction. -/
theorem ofSource_written {c : Chart} (h : c.IsWritable) (direction : Direction) :
    Diagram.ofSource (c.written direction) = .ok (.flow c direction) ∧
      Diagram.ofSource (c.written direction ++ ['\n']) = .ok (.flow c direction) := by
  have hread : Diagram.ofStatements (c.writtenLines direction) = .ok (.flow c direction) := by
    simp only [writtenLines, Diagram.ofStatements, ofStatements?_heading, Diagram.ofFlow]
    rw [h.ofStatements_written, if_neg (by simpa using h.nodes_ne_nil)]
  obtain ⟨hplain, hnewline⟩ := h.statements_written direction
  unfold Diagram.ofSource
  rw [hplain, hnewline]
  exact ⟨hread, hread⟩

/-- A chart with every shape, labels full of quotes, brackets and bars, an edge that is repeated and
one that is a loop. -/
def crowded : Chart where
  nodes :=
    [⟨"a".toList, "a".toList, .bare⟩, ⟨"b-1".toList, "[\"x\"] |y| %%".toList, .square⟩,
     ⟨"c_".toList, ")\"(".toList, .round⟩, ⟨"D".toList, "((".toList, .circle⟩,
     ⟨"ends".toList, "end".toList, .rhombus⟩]
  edges := [⟨"a".toList, "b-1".toList⟩, ⟨"a".toList, "b-1".toList⟩, ⟨"D".toList, "D".toList⟩]

theorem ofSource_written_crowded : crowded.IsWritable ∧
    Diagram.ofSource (crowded.written .right) = .ok (.flow crowded .right) ∧
      Diagram.ofSource (crowded.written .right ++ ['\n']) = .ok (.flow crowded .right) :=
  ⟨by decide +kernel, ofSource_written (by decide +kernel) .right⟩

end Chart

end TextDiagram.Flow
