import TextDiagram.Proofs.Flow.Grammar
import TextDiagram.Proofs.Flow.Reading

/-!
# What the statements of a flow chart can describe

Reading only cuts: the id and the label of a token are parts of the statement (`Token.IsReadIn`),
and the nodes of a chart are either bare or just as one of the mentions gives them
(`exists_of_mem_nodes`). Main statement: every chart that statements describe is well formed
(`isWellFormed_ofStatements`), and says nothing that is not said in one of the statements.
-/

namespace TextDiagram.Flow

open Text

/-! ## Tokens -/

/-- A token as it is read in a statement: its id and its label are parts of the statement, and it
has a label only with brackets. -/
structure Token.IsReadIn (s : List Char) (t : Token) : Prop where
  id_ne_nil : t.id ≠ []
  isIdChar : ∀ c ∈ t.id, isIdChar c = true
  id_isInfix : t.id <:+: s
  label_ne_nil : ∀ label ∈ t.label, label ≠ []
  label_trim : ∀ label ∈ t.label, trim label = label
  label_isInfix : ∀ label ∈ t.label, label <:+: s
  label_of_bare : t.shape = .bare → t.label = none

/-- What is read in a part of a statement is read in the statement. -/
theorem Token.IsReadIn.mono {s s' : List Char} {t : Token} (h : t.IsReadIn s) (hs : s <:+: s') :
    t.IsReadIn s' :=
  { h with
    id_isInfix := h.id_isInfix.trans hs
    label_isInfix := fun label hl => (h.label_isInfix label hl).trans hs }

theorem withoutOpeningQuote_suffix (t : List Char) : withoutOpeningQuote t <:+ t := by
  unfold withoutOpeningQuote
  split
  · exact List.suffix_refl _
  · split
    · exact List.suffix_cons _ _
    · exact List.suffix_refl _

theorem withoutClosingQuote_isPrefix (t : List Char) : withoutClosingQuote t <+: t := by
  simpa [withoutClosingQuote] using
    List.reverse_prefix.mpr (withoutOpeningQuote_suffix t.reverse)

/-- A label is a part of what the brackets enclose, without blanks at its ends. -/
theorem of_label?_eq_some {body label : List Char} (h : label? body = some label) :
    label ≠ [] ∧ trim label = label ∧ label <:+: body := by
  unfold label? at h
  simp only at h
  split at h
  · cases h
  · next hne =>
    cases h
    have hclosing := (withoutClosingQuote_isPrefix (withoutOpeningQuote (trim body))).isInfix
    have hopening := (withoutOpeningQuote_suffix (trim body)).isInfix
    have hbody := hclosing.trans (hopening.trans <| trim_infix body)
    refine ⟨by simpa using hne, trim_trim _, List.IsInfix.trans ?_ hbody⟩
    exact trim_infix _

/-- No brackets stand for the bare shape. -/
theorem Brackets.shape_ne_bare {b : Brackets} (h : b ∈ all) : b.shape ≠ .bare := by
  revert b
  decide

/-- A token is read in its text. -/
theorem Token.isReadIn_of_ofText? {t : List Char} {token : Token} (h : ofText? t = some token) :
    token.IsReadIn t := by
  obtain ⟨hid, hne⟩ := ofText?_eq_some h
  have hidchar : ∀ c ∈ token.id, isIdChar c = true := by
    rw [hid]
    exact fun c hc => List.mem_takeWhile_imp hc
  have hidinfix : token.id <:+: t := by
    rw [hid]
    exact (List.takeWhile_prefix _).isInfix.trans <| trim_infix t
  rcases cases_of_ofText? h with ⟨-, -, hnone⟩ | ⟨b, hb, body, htoken, hshape, hlabel⟩
  · have hno : ∀ label, label ∉ token.label := by
      rw [hnone]
      nofun
    exact ⟨hne, hidchar, hidinfix, fun l hl => absurd hl (hno l), fun l hl => absurd hl (hno l),
      fun l hl => absurd hl (hno l), fun _ => hnone⟩
  · have hbody : body <:+: t := by
      have hbehind : b.opening ++ (body ++ b.closing) <:+: trim t :=
        htoken ▸ (List.suffix_append token.id _).isInfix
      have hfront : body ++ b.closing <:+: trim t :=
        (List.suffix_append b.opening _).isInfix.trans hbehind
      exact ((List.prefix_append body b.closing).isInfix.trans hfront).trans <| trim_infix t
    have hread : ∀ label ∈ token.label, label ≠ [] ∧ trim label = label ∧ label <:+: body :=
      fun label hl => of_label?_eq_some (hlabel ▸ hl)
    exact ⟨hne, hidchar, hidinfix, fun l hl => (hread l hl).1, fun l hl => (hread l hl).2.1,
      fun l hl => (hread l hl).2.2.trans hbody,
      fun hbare => absurd (hshape.trans hbare) (Brackets.shape_ne_bare hb)⟩

/-! ## Statements -/

theorem withoutLabelAtEnd_isInfix (t : List Char) : withoutLabelAtEnd t <:+: t := by
  have htrim := (trimEnd_isPrefix t).isInfix
  unfold withoutLabelAtEnd
  split
  · next inner h =>
    split
    · next c front hfront =>
      -- the label is looked for from the end, and so its front is a suffix of the reversed text
      have hinner : c :: front <:+ inner := hfront ▸ List.dropWhile_suffix _
      have hreverse : front <:+ (trimEnd t).reverse := by
        rw [h]
        exact (List.suffix_cons c front).trans (hinner.trans (List.suffix_cons _ _))
      exact (List.reverse_suffix.mp (by simpa using hreverse)).isInfix.trans htrim
    · exact htrim
  · exact htrim

theorem withoutLabelAtStart_isInfix (t : List Char) : withoutLabelAtStart t <:+: t := by
  have htrim := (trimStart_suffix t).isInfix
  unfold withoutLabelAtStart
  split
  · next inner h =>
    split
    · next c back hback =>
      have hinner : c :: back <:+ inner := hback ▸ List.dropWhile_suffix _
      have hall : back <:+ trimStart t := by
        rw [h]
        exact (List.suffix_cons c back).trans (hinner.trans (List.suffix_cons _ _))
      exact hall.isInfix.trans htrim
    · exact htrim
  · exact htrim

/-- What a statement mentions is read in it. -/
theorem of_mem_mentions_read {s : List Char} {m : Mention} (h : m ∈ (read s).mentions) :
    (∃ token : Token, token.IsReadIn s ∧ m = token.mention) ∨
      ∃ source target : Token, source.IsReadIn s ∧ target.IsReadIn s ∧
        m = .edge source.id target.id := by
  obtain ⟨-, hadded⟩ := mem_mentions_read_iff.mp h
  rcases hadded with ⟨token, -, htoken, rfl⟩ | ⟨cut, source, target, hcut, hsource, htarget, hm⟩
  · exact Or.inl ⟨token, Token.isReadIn_of_ofText? htoken, rfl⟩
  · obtain ⟨-, hs⟩ := cut?_eq_some hcut
    have hbefore : cut.before <:+: s := by
      rw [hs, List.append_assoc]
      exact (List.prefix_append _ _).isInfix
    have hafter : cut.after <:+: s := by
      rw [hs]
      exact (List.suffix_append _ _).isInfix
    have hread := (Token.isReadIn_of_ofText? hsource).mono
      ((withoutLabelAtEnd_isInfix _).trans hbefore)
    have hread' := (Token.isReadIn_of_ofText? htarget).mono
      ((withoutLabelAtStart_isInfix _).trans hafter)
    simp only [List.mem_cons, List.not_mem_nil, or_false] at hm
    rcases hm with rfl | rfl | rfl
    · exact Or.inl ⟨source, hread, rfl⟩
    · exact Or.inl ⟨target, hread', rfl⟩
    · exact Or.inr ⟨source, target, hread, hread', rfl⟩

/-! ## Nodes -/

/-- What is supplied is the label that is given, unless it is empty, and its shape. -/
theorem of_mem_supplied {label : List Char} {shape shape' : Shape} {label' : Option (List Char)}
    (h : (label, shape) ∈ supplied label' shape') : label' = some label ∧ shape' = shape := by
  obtain ⟨l, hl, heq⟩ := Option.map_eq_some_iff.mp (Option.mem_toList.mp h)
  cases heq
  exact ⟨(Option.filter_eq_some_iff.mp hl).1, rfl⟩

/-- One of the labels that were given for an id settles its node, unless there is none. -/
theorem Node.settled_eq_bare_or_mem (id : List Char) (given : List (List Char × Shape)) :
    settled id given = bare id ∨ ((settled id given).label, (settled id given).shape) ∈ given := by
  unfold settled
  split
  · next label shape hfind => exact Or.inr (List.mem_of_find?_eq_some hfind)
  · next hnone =>
    split
    · next label shape hlast =>
      -- no label that is given differs from the id, and neither does the last one
      have hmem : (label, shape) ∈ given := List.mem_of_getLast? hlast
      have hlabel : label = id := by simpa using List.find?_eq_none.mp hnone _ hmem
      exact Or.inr (hlabel ▸ hmem)
    · exact Or.inl rfl

namespace Chart

/-- The id of a node is named by a mention. The node is bare, or it is as one of the mentions gives
it. -/
theorem exists_of_mem_nodes {history : List Mention} {n : Node}
    (h : n ∈ (ofMentions history).nodes) :
    (∃ m ∈ history, n.id ∈ m.ids) ∧
      (n = .bare n.id ∨ .node n.id (some n.label) n.shape ∈ history) := by
  have hsettled := settled_ofMentions history
  constructor
  · have hid : n.id ∈ (ofMentions history).ids := List.mem_map.mpr ⟨n, h, rfl⟩
    rw [hsettled.ids_eq, List.mem_eraseDups] at hid
    exact List.mem_flatMap.mp hid
  · have hnode := hsettled.node_eq n h
    rcases Node.settled_eq_bare_or_mem n.id (history.flatMap (Mention.given n.id))
      with hbare | hmem
    · exact Or.inl (hnode.trans hbare)
    · rw [← hnode] at hmem
      obtain ⟨m, hm, hgiven⟩ := List.mem_flatMap.mp hmem
      cases m with
      | edge source target => cases hgiven
      | node id label shape =>
        rw [Mention.given] at hgiven
        split at hgiven
        · next hid =>
          obtain ⟨rfl, rfl⟩ := of_mem_supplied hgiven
          exact Or.inr (hid ▸ hm)
        · cases hgiven

end Chart

/-! ## Charts -/

/-- A node as a statement says it: its id and its label are parts of the statement, not empty, of
the characters of ids and trimmed. A bare node is shown by its id. -/
structure Node.IsReadIn (s : List Char) (n : Node) : Prop where
  id_ne_nil : n.id ≠ []
  isIdChar : ∀ c ∈ n.id, isIdChar c = true
  id_isInfix : n.id <:+: s
  label_ne_nil : n.label ≠ []
  label_trim : trim n.label = n.label
  label_isInfix : n.label <:+: s
  label_of_bare : n.shape = .bare → n.label = n.id

namespace Token.IsReadIn

variable {s : List Char} {t : Token} (h : t.IsReadIn s)
include h

theorem bare : (Node.bare t.id).IsReadIn s :=
  ⟨h.id_ne_nil, h.isIdChar, h.id_isInfix, h.id_ne_nil, trim_of_isIdChar h.isIdChar, h.id_isInfix,
    fun _ => rfl⟩

/-- A label comes with brackets, so that its shape is not bare. -/
theorem labelled {label : List Char} (hlabel : t.label = some label) :
    (⟨t.id, label, t.shape⟩ : Node).IsReadIn s := by
  refine ⟨h.id_ne_nil, h.isIdChar, h.id_isInfix, h.label_ne_nil label hlabel,
    h.label_trim label hlabel, h.label_isInfix label hlabel, fun hbare => ?_⟩
  have hnone := h.label_of_bare hbare
  rw [hlabel] at hnone
  cases hnone

end Token.IsReadIn

namespace Chart

/-- A chart that statements can describe: it has a node, the ids of its nodes are distinct, each
node is read in one of the statements, labels hold no separator, and edges lead from node to
node. -/
structure IsWellFormed (statements : List (List Char)) (c : Chart) : Prop where
  nodes_ne_nil : c.nodes ≠ []
  nodup : c.ids.Nodup
  nodes : ∀ n ∈ c.nodes, ∃ s ∈ statements, n.IsReadIn s
  no_separator : ∀ n ∈ c.nodes, '\n' ∉ n.label ∧ ';' ∉ n.label
  ends : ∀ e ∈ c.edges, e.source ∈ c.ids ∧ e.target ∈ c.ids

/-- More statements can describe no less. -/
theorem IsWellFormed.mono {statements more : List (List Char)} {c : Chart}
    (h : c.IsWellFormed statements) (hsub : statements ⊆ more) : c.IsWellFormed more :=
  { h with
    nodes := fun n hn =>
      let ⟨s, hs, hread⟩ := h.nodes n hn
      ⟨s, hsub hs, hread⟩ }

variable {statements : List (List Char)}

/-- Each node of a chart is read in one of the statements. -/
theorem exists_isReadIn_of_mem_nodes {n : Node} (h : n ∈ (ofStatements statements).nodes) :
    ∃ s ∈ statements, n.IsReadIn s := by
  obtain ⟨⟨m, hm, hid⟩, hbare | hgiven⟩ := exists_of_mem_nodes h
  · -- a bare node is only named: by a token, or as an end of an edge
    obtain ⟨s, hs, hread⟩ := List.mem_flatMap.mp hm
    refine ⟨s, hs, ?_⟩
    rw [hbare]
    rcases of_mem_mentions_read hread with ⟨token, htoken, rfl⟩ | ⟨source, target, hsource,
      htarget, rfl⟩
    · rw [List.mem_singleton.mp hid]
      exact htoken.bare
    · rcases List.mem_cons.mp hid with hid | hid
      · rw [hid]
        exact hsource.bare
      · rw [List.mem_singleton.mp hid]
        exact htarget.bare
  · obtain ⟨s, hs, hread⟩ := List.mem_flatMap.mp hgiven
    refine ⟨s, hs, ?_⟩
    rcases of_mem_mentions_read hread with ⟨token, htoken, heq⟩ | ⟨source, target, _, _, heq⟩
    · obtain ⟨hid, hlabel, hshape⟩ := Mention.node.injEq .. ▸ heq
      have hnode := htoken.labelled hlabel.symm
      rwa [← hid, ← hshape] at hnode
    · cases heq

/-- The chart of some statements is well formed, if it has a node. -/
theorem isWellFormed_ofStatements (hne : (ofStatements statements).nodes ≠ [])
    (hsep : ∀ s ∈ statements, '\n' ∉ s ∧ ';' ∉ s) :
    (ofStatements statements).IsWellFormed statements := by
  have hclosed : (ofStatements statements).IsClosed := isClosed_ofMentions _
  refine ⟨hne, hclosed.nodup, fun n hn => exists_isReadIn_of_mem_nodes hn, fun n hn => ?_,
    hclosed.ends⟩
  obtain ⟨s, hs, hread⟩ := exists_isReadIn_of_mem_nodes hn
  obtain ⟨hnewline, hsemicolon⟩ := hsep s hs
  exact ⟨fun h => hnewline (hread.label_isInfix.subset h),
    fun h => hsemicolon (hread.label_isInfix.subset h)⟩

end Chart

end TextDiagram.Flow
