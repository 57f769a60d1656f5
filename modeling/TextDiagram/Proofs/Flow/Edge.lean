import TextDiagram.Proofs.Flow.Cut
import TextDiagram.Proofs.Flow.Grammar

/-!
# Edges as statements write them

An edge is written with an operator between its ends, with blanks wherever they may stand, and
perhaps with a label between bars on one side of the operator. None of these is kept. Dashes are the
only trouble, since an id may begin and end with them: next to the operator they would become part
of it. Main statement: the nodes and edges of a chart of one edge depend on what stands at the ends of
the edge only (`EdgeLine.ofStatements_edgeLine`).
-/

namespace TextDiagram.Flow

open Text
open scoped ItemByItem

/-! ## Labels of edges -/

/-- The label of an edge between bars. -/
def barred (text : List Char) : List Char :=
  '|' :: (text ++ ['|'])

theorem withoutLabelAtEnd_of_getLast? {t : List Char} (h : ∀ c ∈ (trimEnd t).getLast?, c ≠ '|') :
    withoutLabelAtEnd t = trimEnd t := by
  unfold withoutLabelAtEnd
  split
  · next inner hinner =>
    rw [← List.head?_reverse, hinner] at h
    exact absurd rfl (h '|' rfl)
  · rfl

theorem withoutLabelAtStart_of_head? {t : List Char} (h : ∀ c ∈ (trimStart t).head?, c ≠ '|') :
    withoutLabelAtStart t = trimStart t := by
  unfold withoutLabelAtStart
  split
  · next inner hinner =>
    rw [hinner] at h
    exact absurd rfl (h '|' rfl)
  · rfl

section Barred

variable {text : List Char} (htext : '|' ∉ text)
include htext

/-- A run of other characters ends at a bar. -/
theorem dropWhile_bar (t : List Char) : (text ++ '|' :: t).dropWhile (· != '|') = '|' :: t := by
  refine (run_append (fun c hc => ?_) ?_).2
  · have hne : c ≠ '|' := fun h => htext (h ▸ hc)
    simpa using hne
  · intro c hc
    cases hc
    rfl

theorem withoutLabelAtEnd_barred {gap : List Char} (hgap : ∀ c ∈ gap, isBlank c = true)
    (s : List Char) : withoutLabelAtEnd (s ++ (barred text ++ gap)) = s := by
  have hend : trimEnd (s ++ (barred text ++ gap)) = s ++ barred text := by
    rw [← List.append_assoc, trimEnd_append, if_pos (trimEnd_eq_nil hgap), trimEnd_eq_self_iff]
    intro c hc
    rw [barred, ← List.cons_append, ← List.append_assoc, List.getLast?_concat] at hc
    cases hc
    decide
  have hreverse : (s ++ barred text).reverse = '|' :: (text.reverse ++ '|' :: s.reverse) := by
    simp [barred]
  have hdrop : (text.reverse ++ '|' :: s.reverse).dropWhile (· != '|') = '|' :: s.reverse :=
    dropWhile_bar (by simpa using htext) s.reverse
  unfold withoutLabelAtEnd
  rw [hend, hreverse]
  simp only [hdrop, List.reverse_reverse]

theorem withoutLabelAtStart_barred {gap : List Char} (hgap : ∀ c ∈ gap, isBlank c = true)
    (t : List Char) : withoutLabelAtStart (gap ++ (barred text ++ t)) = t := by
  have hstart : trimStart (gap ++ (barred text ++ t)) = '|' :: (text ++ '|' :: t) := by
    rw [trimStart_append hgap, trimStart_eq_self_iff.mpr, barred]
    · simp
    · intro c hc
      cases hc
      decide
  unfold withoutLabelAtStart
  rw [hstart]
  simp only [dropWhile_bar htext]

end Barred

/-! ## Ends of edges -/

theorem Token.ne_nil_of_ofText? {t : List Char} {token : Token} (h : ofText? t = some token) :
    t ≠ [] := by
  obtain ⟨hid, hne⟩ := ofText?_eq_some h
  rintro rfl
  exact hne hid

/-- A node begins with a character of its id. -/
theorem Token.isIdChar_head {t : List Char} {token : Token} (h : ofText? t = some token) :
    ∀ c ∈ (trim t).head?, isIdChar c = true := by
  obtain ⟨hne, hlong, rest, hsplit, -⟩ := ofText?_eq_some_iff.mp h
  intro c hc
  rw [hsplit, List.head?_append_of_ne_nil _ hne] at hc
  exact hlong.isIdChar c (List.mem_of_mem_head? hc)

/-- A node ends with a character of its id or with a bracket. -/
theorem Token.isIdChar_or_bracket_getLast {t : List Char} {token : Token}
    (h : ofText? t = some token) :
    ∀ c ∈ (trim t).getLast?, isIdChar c = true ∨ c ∈ [']', ')', '\x7d'] := by
  obtain ⟨hne, hlong, rest, hsplit, hcases⟩ := ofText?_eq_some_iff.mp h
  have hid : ∀ c ∈ token.id.getLast?, isIdChar c = true ∨ c ∈ [']', ')', '\x7d'] :=
    fun c hc => Or.inl (hlong.isIdChar c (List.mem_of_mem_getLast? hc))
  rw [hsplit]
  rcases hcases with ⟨rfl, -, -⟩ | ⟨b, hb, body, rfl, -⟩
  · rw [List.append_nil]
    exact hid
  · have hclosing : ∀ b ∈ Brackets.all, b.closing ≠ [] ∧ ∀ c ∈ b.closing, c ∈ [']', ')', '\x7d'] := by
      decide
    obtain ⟨hne, hbracket⟩ := hclosing b hb
    intro c hc
    rw [← List.append_assoc, ← List.append_assoc, List.getLast?_append_of_ne_nil _ hne] at hc
    exact Or.inr (hbracket c (List.mem_of_mem_getLast? hc))

/-- A character of an id is no sign of an operator, unless it is a dash. -/
theorem not_mem_operator_of_isIdChar {c : Char} (h : isIdChar c = true) (hdash : c ≠ '-') :
    ∀ op ∈ operators, c ∉ op := by
  have hsign : ∀ op ∈ operators, ∀ d ∈ op, isIdChar d = true → d = '-' := by decide
  exact fun op hop hc => hdash (hsign op hop c hc h)

theorem not_mem_operator_of_isBlank {c : Char} (h : isBlank c = true) :
    ∀ op ∈ operators, c ∉ op := by
  have hsign : ∀ op ∈ operators, ∀ d ∈ op, isBlank d = false := by decide
  intro op hop hc
  rw [hsign op hop c hc] at h
  cases h

theorem not_mem_operator_of_mem {c : Char} (h : c ∈ [']', ')', '\x7d', '|']) :
    ∀ op ∈ operators, c ∉ op := by
  have hsign : ∀ d ∈ [']', ')', '\x7d', '|'], ∀ op ∈ operators, d ∉ op := by decide
  exact hsign c h

/-! ## Lines -/

/-- Where the label of an edge is written, if there is one. -/
inductive EdgeLabel
  /-- There is no label. -/
  | none
  /-- The label stands in front of the operator. -/
  | inFront (text : List Char)
  /-- The label stands behind the operator. -/
  | behind (text : List Char)

/-- The parts of a statement that is an edge. -/
structure EdgeLine where
  /-- The node where the edge starts, as it is written. -/
  source : List Char
  /-- The operator. -/
  operator : List Char
  /-- The node where the edge ends, as it is written. -/
  target : List Char
  /-- The label of the edge. -/
  label : EdgeLabel
  /-- The blanks behind the source. -/
  gap₁ : List Char
  /-- The blanks that separate the label from the operator. -/
  gap₂ : List Char
  /-- The blanks in front of the target. -/
  gap₃ : List Char

namespace EdgeLine

/-- What stands in front of the operator. -/
def before (e : EdgeLine) : List Char :=
  match e.label with
  | .inFront text => e.source ++ e.gap₁ ++ (barred text ++ e.gap₂)
  | .none | .behind _ => e.source ++ e.gap₁

/-- What stands behind the operator. -/
def after (e : EdgeLine) : List Char :=
  match e.label with
  | .none => e.gap₂ ++ (e.gap₃ ++ e.target)
  | .inFront _ => e.gap₃ ++ e.target
  | .behind text => e.gap₂ ++ (barred text ++ (e.gap₃ ++ e.target))

/-- The edge as a statement. -/
def written (e : EdgeLine) : List Char :=
  e.before ++ (e.operator ++ e.after)

end EdgeLine

/-- A label of an edge can be told from what stands around it. -/
def EdgeLabel.IsReadable : EdgeLabel → Prop
  | .none => True
  | .inFront text => '|' ∉ text ∧ ¬ HasOperator text
  | .behind text => '|' ∉ text

/-- An edge that can be read: no operator stands in front of the one that is meant, which does not
run into a dash on either side, and the statement does not open with a keyword. -/
structure EdgeLine.IsReadable (e : EdgeLine) : Prop where
  source_trim : trim e.source = e.source
  source_no_operator : ¬ HasOperator e.source
  target_trim : trim e.target = e.target
  operator_mem : e.operator ∈ operators
  blank : ∀ c ∈ e.gap₁ ++ e.gap₂ ++ e.gap₃, isBlank c = true
  label : e.label.IsReadable
  no_dash_before : e.gap₁ ≠ [] ∨ e.before.getLast? ≠ some '-'
  no_dash_after : e.after.head? ≠ some '-'
  no_keyword : firstWord e.written ∉ keywords

namespace EdgeLine.IsReadable

variable {e : EdgeLine} (h : e.IsReadable)
include h

theorem isBlank_gap₁ : ∀ c ∈ e.gap₁, isBlank c = true :=
  fun c hc => h.blank c (List.mem_append_left _ (List.mem_append_left _ hc))

theorem isBlank_gap₂ : ∀ c ∈ e.gap₂, isBlank c = true :=
  fun c hc => h.blank c (List.mem_append_left _ (List.mem_append_right _ hc))

theorem isBlank_gap₃ : ∀ c ∈ e.gap₃, isBlank c = true :=
  fun c hc => h.blank c (List.mem_append_right _ hc)

theorem before_cases : e.before = e.source ++ e.gap₁ ∨
    ∃ text, ('|' ∉ text ∧ ¬ HasOperator text) ∧
      e.before = e.source ++ e.gap₁ ++ (barred text ++ e.gap₂) := by
  have hlabel := h.label
  unfold before
  cases hcase : e.label with
  | none => exact Or.inl rfl
  | behind text => exact Or.inl rfl
  | inFront text =>
    rw [hcase] at hlabel
    exact Or.inr ⟨text, hlabel, rfl⟩

theorem after_cases :
    (∃ gap, (∀ c ∈ gap, isBlank c = true) ∧ e.after = gap ++ e.target) ∨
      ∃ text, '|' ∉ text ∧ e.after = e.gap₂ ++ (barred text ++ (e.gap₃ ++ e.target)) := by
  have hlabel := h.label
  unfold after
  cases hcase : e.label with
  | none =>
    refine Or.inl ⟨e.gap₂ ++ e.gap₃, ?_, (List.append_assoc ..).symm⟩
    exact List.forall_mem_append.mpr ⟨h.isBlank_gap₂, h.isBlank_gap₃⟩
  | inFront text => exact Or.inl ⟨e.gap₃, h.isBlank_gap₃, rfl⟩
  | behind text =>
    rw [hcase] at hlabel
    exact Or.inr ⟨text, hlabel, rfl⟩

theorem not_hasOperator_before : ¬ HasOperator e.before := by
  have hfront : ¬ HasOperator (e.source ++ e.gap₁) := by
    rw [hasOperator_append_iff fun c hc => not_mem_operator_of_isBlank (h.isBlank_gap₁ c hc)]
    exact h.source_no_operator
  rcases h.before_cases with hbefore | ⟨text, ⟨-, htext⟩, hbefore⟩
  · rw [hbefore]
    exact hfront
  · have hbar : ∀ op ∈ operators, '|' ∉ op := not_mem_operator_of_mem (by decide)
    have hgap : ∀ c ∈ '|' :: e.gap₂, ∀ op ∈ operators, c ∉ op :=
      List.forall_mem_cons.mpr
        ⟨hbar, fun c hc => not_mem_operator_of_isBlank (h.isBlank_gap₂ c hc)⟩
    have hsplit : e.before = (e.source ++ e.gap₁) ++ '|' :: (text ++ '|' :: e.gap₂) := by
      rw [hbefore]
      simp [barred]
    rw [hsplit, hasOperator_append_cons_iff hbar, hasOperator_append_iff hgap, not_or]
    exact ⟨hfront, htext⟩

section Source

variable {source : Token} (hsource : Token.ofText? e.source = some source)
include hsource

/-- No operator can begin in front of the one that is meant. -/
theorem not_mem_operator_getLast : ∀ c ∈ e.before.getLast?, ∀ op ∈ operators, c ∉ op := by
  have hdash := h.no_dash_before
  rcases h.before_cases with hbefore | ⟨text, -, hbefore⟩
  · rw [hbefore] at hdash ⊢
    by_cases hnil : e.gap₁ = []
    · -- without a gap the operator follows the source
      rw [hnil, List.append_nil] at hdash ⊢
      have hends := Token.isIdChar_or_bracket_getLast hsource
      rw [h.source_trim] at hends
      intro c hc
      have hne : c ≠ '-' := by
        rintro rfl
        exact hdash.resolve_left (fun hgap => hgap rfl) hc
      rcases hends c hc with hid | hbracket
      · exact not_mem_operator_of_isIdChar hid hne
      · exact not_mem_operator_of_mem (List.mem_append_left ['|'] hbracket)
    · intro c hc
      rw [List.getLast?_append_of_ne_nil _ hnil] at hc
      exact not_mem_operator_of_isBlank (h.isBlank_gap₁ c (List.mem_of_mem_getLast? hc))
  · have hsplit : e.before = (e.source ++ e.gap₁ ++ '|' :: text ++ ['|']) ++ e.gap₂ := by
      rw [hbefore]
      simp [barred]
    rw [hsplit]
    refine forall_getLast?_append ?_ fun c hc => not_mem_operator_of_isBlank (h.isBlank_gap₂ c hc)
    intro c hc
    rw [List.getLast?_concat] at hc
    cases hc
    exact not_mem_operator_of_mem (by decide)

/-- What stands in front of the operator is read as the source. -/
theorem ofText?_before : Token.ofText? (withoutLabelAtEnd e.before) = some source := by
  rcases h.before_cases with hbefore | ⟨text, ⟨htext, -⟩, hbefore⟩
  · have hend : trimEnd e.before = e.source := by
      rw [hbefore, trimEnd_append, if_pos (trimEnd_eq_nil h.isBlank_gap₁), trimEnd_eq_self_iff]
      exact (trim_eq_self_iff.mp h.source_trim).2
    have hbar : ∀ c ∈ (trimEnd e.before).getLast?, c ≠ '|' := by
      have hlast := Token.isIdChar_or_bracket_getLast hsource
      rw [h.source_trim] at hlast
      rw [hend]
      rintro c hc rfl
      exact absurd (hlast '|' hc) (by decide)
    rw [withoutLabelAtEnd_of_getLast? hbar, hend, hsource]
  · have htrim : trim (e.source ++ e.gap₁) = e.source := by
      rw [trim_append (Token.ne_nil_of_ofText? hsource) h.source_trim,
        trimEnd_eq_nil h.isBlank_gap₁, List.append_nil]
    rw [hbefore, withoutLabelAtEnd_barred htext h.isBlank_gap₂, ← Token.ofText?_trim, htrim,
      hsource]

end Source

section Target

variable {target : Token} (htarget : Token.ofText? e.target = some target)
include htarget

theorem isIdChar_target_head : ∀ c ∈ e.target.head?, isIdChar c = true := by
  have hhead := Token.isIdChar_head htarget
  rwa [h.target_trim] at hhead

/-- The operator that is meant does not go on. -/
theorem sign_not_mem_head : ∀ c ∈ e.after.head?, c ∉ ['-', '>'] := by
  have hgap : ∀ gap : List Char, (∀ c ∈ gap, isBlank c = true) → ∀ c ∈ gap, c ≠ '>' := by
    rintro gap hgap c hc rfl
    exact absurd (hgap '>' hc) (by decide)
  have hafter : ∀ c ∈ e.after.head?, c ≠ '>' := by
    rcases h.after_cases with ⟨gap, hblank, hafter⟩ | ⟨text, -, hafter⟩
    · rw [hafter]
      refine forall_head?_append (hgap gap hblank) ?_
      rintro c hc rfl
      exact absurd (h.isIdChar_target_head htarget '>' hc) (by decide)
    · rw [hafter]
      refine forall_head?_append (hgap e.gap₂ h.isBlank_gap₂) ?_
      rintro c hc rfl
      cases hc
  intro c hc hsign
  rcases List.mem_cons.mp hsign with rfl | hsign
  · exact h.no_dash_after hc
  · exact hafter c hc (List.mem_singleton.mp hsign)

/-- What stands behind the operator is read as the target. -/
theorem ofText?_after : Token.ofText? (withoutLabelAtStart e.after) = some target := by
  rcases h.after_cases with ⟨gap, hblank, hafter⟩ | ⟨text, htext, hafter⟩
  · have hstart : trimStart e.after = e.target := by
      rw [hafter, trimStart_append hblank, trimStart_eq_self_iff]
      exact (trim_eq_self_iff.mp h.target_trim).1
    have hbar : ∀ c ∈ (trimStart e.after).head?, c ≠ '|' := by
      rw [hstart]
      rintro c hc rfl
      exact absurd (h.isIdChar_target_head htarget '|' hc) (by decide)
    rw [withoutLabelAtStart_of_head? hbar, hstart, htarget]
  · have htrim : trim (e.gap₃ ++ e.target) = trim e.target := by
      rw [trim, trimStart_append h.isBlank_gap₃, trim]
    rw [hafter, withoutLabelAtStart_barred htext h.isBlank_gap₂, ← Token.ofText?_trim, htrim,
      Token.ofText?_trim, htarget]

end Target

/-- An edge is read with its two ends, whatever its operator, its blanks and its label. -/
theorem read_eq_edge {source target : Token} (hsource : Token.ofText? e.source = some source)
    (htarget : Token.ofText? e.target = some target) : read e.written = .edge source target := by
  have hcut : cut? e.written = some ⟨e.before, e.operator, e.after⟩ :=
    cut?_append_operator h.not_hasOperator_before (h.not_mem_operator_getLast hsource)
      h.operator_mem (h.sign_not_mem_head htarget)
  unfold read
  rw [if_neg (by simpa using h.no_keyword), hcut]
  simp only
  rw [h.ofText?_before hsource, h.ofText?_after htarget]

end EdgeLine.IsReadable

/-! ## The nodes of an edge -/

/-- The node of a token that is read for the first time: it is shown by its label, and by its id if
it has none. -/
def Token.node (t : Token) : Node :=
  match t.label with
  | none | some [] => ⟨t.id, t.id, .bare⟩
  | some (c :: label) => ⟨t.id, c :: label, t.shape⟩

/-- The nodes of an edge. If its ends have the same id, they are one node: the target is left out
unless it has a label and the source is shown by its id. -/
def Token.nodesOfEdge (source target : Token) : List Node :=
  if source.id ≠ target.id then [source.node, target.node]
  else if source.node.label = source.id ∧ target.label.getD [] ≠ [] then [target.node]
  else [source.node]

theorem Token.mentioned_eq_node (t : Token) :
    Node.mentioned t.id (t.label.filter fun label => !label.isEmpty) t.shape = t.node := by
  obtain ⟨id, label, shape⟩ := t
  cases label with
  | none => rfl
  | some label => cases label <;> rfl

@[simp] theorem Token.id_node (t : Token) : t.node.id = t.id := by
  rw [← mentioned_eq_node, Node.id_mentioned]

theorem Token.mentionedAgain_node {source target : Token} (hid : source.id = target.id) :
    source.node.mentionedAgain (target.label.filter fun label => !label.isEmpty) target.shape =
      if source.node.label = source.id ∧ target.label.getD [] ≠ [] then target.node
      else source.node := by
  obtain ⟨id, label, shape⟩ := target
  cases label with
  | none => exact (if_neg (by simp)).symm
  | some label =>
    cases label with
    | nil => exact (if_neg (by simp)).symm
    | cons c label =>
      show (if source.node.isUnlabelled then { source.node with label := c :: label, shape }
        else source.node) = if source.node.label = source.id ∧ c :: label ≠ []
          then ⟨id, c :: label, shape⟩ else source.node
      simp [Node.isUnlabelled, hid]

theorem Chart.ids_singleton (n : Node) (edges : List Edge) : Chart.ids ⟨[n], edges⟩ = [n.id] := rfl

/-- The two ends of an edge are mentioned one after the other. -/
theorem register_register_empty (source target : Token) :
    (Chart.empty.register source.id source.label source.shape).register
      target.id target.label target.shape = ⟨source.nodesOfEdge target, []⟩ := by
  have hfirst : Chart.empty.register source.id source.label source.shape = ⟨[source.node], []⟩ := by
    rw [Chart.register_of_not_mem (by simp [Chart.ids, Chart.empty]), source.mentioned_eq_node]
    rfl
  rw [hfirst]
  by_cases hid : source.id = target.id
  · have hsame : ¬ source.id ≠ target.id := not_not_intro hid
    rw [Token.nodesOfEdge, if_neg hsame]
    unfold Chart.register
    rw [Chart.ids_singleton, Token.id_node, hid, List.contains_cons, beq_self_eq_true, Bool.true_or,
      if_pos rfl, List.map_singleton, Token.id_node, if_pos hid, Token.mentionedAgain_node hid, hid]
    split <;> rfl
  · have hnew : target.id ∉ Chart.ids ⟨[source.node], []⟩ := by
      simpa [Chart.ids_singleton] using Ne.symm hid
    rw [Chart.register_of_not_mem hnew, target.mentioned_eq_node, Token.nodesOfEdge, if_pos hid]
    rfl

/-- The chart of a statement that is an edge is that of its two nodes and the edge between them,
whatever the operator, the blanks and the label of the edge. It has these nodes, with the labels and
shapes that are given for them, and this edge only. -/
theorem EdgeLine.ofStatements_edgeLine {e : EdgeLine} (h : e.IsReadable) {source target : Token}
    (hsource : Token.ofText? e.source = some source)
    (htarget : Token.ofText? e.target = some target) :
    Chart.ofStatements [e.written] =
        ((Chart.empty.register source.id source.label source.shape).register
          target.id target.label target.shape).connect source.id target.id ∧
      (Chart.ofStatements [e.written]).nodes = source.nodesOfEdge target ∧
      (Chart.ofStatements [e.written]).edges = [⟨source.id, target.id⟩] := by
  have hchart : Chart.ofStatements [e.written] =
      ((Chart.empty.register source.id source.label source.shape).register
        target.id target.label target.shape).connect source.id target.id := by
    rw [Chart.ofStatements, List.flatMap_singleton, h.read_eq_edge hsource htarget]
    rfl
  refine ⟨hchart, ?_⟩
  have hs : source.id ∈ ((Chart.empty.register source.id source.label source.shape).register
      target.id target.label target.shape).ids :=
    Chart.mem_ids_register.mpr (Or.inl (Chart.mem_ids_register.mpr (Or.inr rfl)))
  have ht : target.id ∈ ((Chart.empty.register source.id source.label source.shape).register
      target.id target.label target.shape).ids :=
    Chart.mem_ids_register.mpr (Or.inr rfl)
  rw [hchart, Chart.connect_of_mem hs ht, register_register_empty]
  exact ⟨rfl, rfl⟩

/-- An edge with dashes, bars and operators wherever they can be read. -/
def crowdedLine : EdgeLine where
  source := "a-[x|y-]".toList
  operator := "<-".toList
  target := "b--\x7b|-->|\x7d".toList
  label := .inFront " - ".toList
  gap₁ := []
  gap₂ := []
  gap₃ := []

theorem EdgeLine.ofStatements_edgeLine_crowded :
    crowdedLine.IsReadable ∧
      Token.ofText? crowdedLine.source = some ⟨"a-".toList, some "x|y-".toList, .square⟩ ∧
      Token.ofText? crowdedLine.target = some ⟨"b--".toList, some "|-->|".toList, .rhombus⟩ ∧
      Chart.ofStatements [crowdedLine.written] =
        ((Chart.empty.register "a-".toList (some "x|y-".toList) .square).register
          "b--".toList (some "|-->|".toList) .rhombus).connect "a-".toList "b--".toList ∧
      (Chart.ofStatements [crowdedLine.written]).nodes =
        [⟨"a-".toList, "x|y-".toList, .square⟩, ⟨"b--".toList, "|-->|".toList, .rhombus⟩] ∧
      (Chart.ofStatements [crowdedLine.written]).edges = [⟨"a-".toList, "b--".toList⟩] := by
  have hreadable : crowdedLine.IsReadable := {
    source_trim := by decide +kernel
    source_no_operator := by decide +kernel
    target_trim := by decide +kernel
    operator_mem := by decide
    blank := by decide
    label := ⟨by decide, by decide⟩
    no_dash_before := Or.inr (by decide)
    no_dash_after := by decide
    no_keyword := by decide +kernel }
  have hsource : Token.ofText? crowdedLine.source =
      some ⟨"a-".toList, some "x|y-".toList, .square⟩ := by
    decide +kernel
  have htarget : Token.ofText? crowdedLine.target =
      some ⟨"b--".toList, some "|-->|".toList, .rhombus⟩ := by
    decide +kernel
  have hchart := ofStatements_edgeLine hreadable hsource htarget
  exact ⟨hreadable, hsource, htarget, hchart⟩

end TextDiagram.Flow
