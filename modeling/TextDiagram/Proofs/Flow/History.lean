import Mathlib.Data.List.Induction
import Mathlib.Data.List.Nodup
import Mathlib.Tactic.Common
import TextDiagram.Flow.Chart
import TextDiagram.Proofs.Keys

/-!
# The history of a flow chart

A chart is what a history of mentions makes of the empty chart. The invariant `Chart.Settled`
relates the chart to the whole history: its nodes are the ids that were named, in the order in which
they were named first, and the label and shape of a node are settled by what was given for its id.
Main statement: the chart of every history in closed form (`ofMentions_closed_form`).
-/

namespace TextDiagram.Flow

/-! ## What a mention says -/

/-- The ids that a mention names, in order. -/
def Mention.ids : Mention → List (List Char)
  | .node id _ _ => [id]
  | .edge source target => [source, target]

/-- The edge that a mention adds. -/
def Mention.edge? : Mention → Option Edge
  | .node _ _ _ => none
  | .edge source target => some ⟨source, target⟩

/-- A label with its shape, unless the label is missing or empty. -/
def supplied (label : Option (List Char)) (shape : Shape) : List (List Char × Shape) :=
  ((label.filter fun label => !label.isEmpty).map fun label => (label, shape)).toList

/-- The labels with their shapes that a mention gives for an id. -/
def Mention.given (id : List Char) : Mention → List (List Char × Shape)
  | .node other label shape => if other = id then supplied label shape else []
  | .edge _ _ => []

/-- The node of an id for which some labels were given, in this order: the first label that differs
from the id counts, and as long as there is none the last shape. -/
def Node.settled (id : List Char) (given : List (List Char × Shape)) : Node :=
  match given.find? fun entry => entry.1 != id with
  | some (label, shape) => ⟨id, label, shape⟩
  | none =>
    match given.getLast? with
    | some (_, shape) => ⟨id, id, shape⟩
    | none => bare id

namespace Node

/-- The first label that differs from the id settles a node. -/
theorem settled_of_find? {id label : List Char} {shape : Shape}
    {given : List (List Char × Shape)}
    (h : given.find? (fun entry => entry.1 != id) = some (label, shape)) :
    (settled id given).label = label ∧ (settled id given).shape = shape := by
  unfold settled
  rw [h]
  exact ⟨rfl, rfl⟩

/-- If all labels are the id, the last one settles the shape of a node. -/
theorem settled_of_getLast? {id label : List Char} {shape : Shape}
    {given : List (List Char × Shape)} (hall : ∀ entry ∈ given, entry.1 = id)
    (h : given.getLast? = some (label, shape)) :
    (settled id given).label = id ∧ (settled id given).shape = shape := by
  have hnone : (given.find? fun entry => entry.1 != id) = none :=
    List.find?_eq_none.mpr fun entry he => by simp [hall entry he]
  unfold settled
  rw [hnone, h]
  exact ⟨rfl, rfl⟩

/-- A node is shown by its id as long as no other label was given for it. -/
theorem isUnlabelled_settled (id : List Char) (given : List (List Char × Shape)) :
    (settled id given).isUnlabelled = (given.find? fun entry => entry.1 != id).isNone := by
  unfold settled
  split
  · next label shape h =>
    have hne : label ≠ id := by simpa using List.find?_some h
    simp [h, isUnlabelled, hne]
  · next h =>
    rw [h]
    split <;> simp [isUnlabelled, bare]

/-- A first mention settles a node by what it gives. -/
theorem mentioned_eq_settled (id : List Char) (label : Option (List Char)) (shape : Shape) :
    mentioned id (label.filter fun label => !label.isEmpty) shape =
      settled id (supplied label shape) := by
  unfold supplied
  cases label.filter fun label => !label.isEmpty with
  | none => rfl
  | some text =>
    by_cases h : text = id
    · subst h
      simp [mentioned, settled]
    · simp [mentioned, settled, h]

/-- A further mention adds what it gives to what was given before. -/
theorem mentionedAgain_settled (id : List Char) (given : List (List Char × Shape))
    (label : Option (List Char)) (shape : Shape) :
    (settled id given).mentionedAgain (label.filter fun label => !label.isEmpty) shape =
      settled id (given ++ supplied label shape) := by
  unfold supplied
  cases label.filter fun label => !label.isEmpty with
  | none => simp [mentionedAgain]
  | some text =>
    simp only [mentionedAgain, isUnlabelled_settled, Option.map_some, Option.toList_some]
    cases h : given.find? fun entry => entry.1 != id with
    | some entry =>
      rw [if_neg (by simp)]
      unfold settled
      rw [List.find?_append, h, Option.some_or]
    | none =>
      rw [if_pos (by simp)]
      unfold settled
      rw [List.find?_append, h, Option.none_or]
      by_cases ht : text = id
      · subst ht
        simp only [List.find?_singleton, bne_self_eq_false, List.getLast?_append,
          List.getLast?_singleton, Option.some_or, Bool.false_eq_true, if_false]
        split <;> rfl
      · have hb : (text != id) = true := by simpa using ht
        simp only [List.find?_singleton, hb, if_true]
        split <;> rfl

end Node

/-! ## Charts and their histories -/

namespace Chart

/-- The invariant of the chart `c` with respect to the ids that were named and the labels that were
given for each id. -/
structure Settled (named : List (List Char)) (given : List Char → List (List Char × Shape))
    (c : Chart) : Prop where
  ids_eq : c.ids = named.eraseDups
  node_eq : ∀ n ∈ c.nodes, n = Node.settled n.id (given n.id)
  given_eq_nil : ∀ id, id ∉ named → given id = []

/-- A mention of a node settles one more label for its id, if it gives one. -/
theorem Settled.register {named : List (List Char)} {given : List Char → List (List Char × Shape)}
    {c : Chart} (h : Settled named given c) (id : List Char) (label : Option (List Char))
    (shape : Shape) :
    Settled (named ++ [id]) (fun x => given x ++ if id = x then supplied label shape else [])
      (c.register id label shape) := by
  refine ⟨?_, ?_, ?_⟩
  · rw [ids_register, h.ids_eq, eraseDups_concat]
  · intro n hn
    unfold Chart.register at hn
    split at hn
    -- a known id: its node takes the label, and the other nodes stay
    · obtain ⟨m, hm, rfl⟩ := List.mem_map.mp hn
      have hm' := h.node_eq m hm
      by_cases hid : m.id = id
      · rw [if_pos hid]
        simp only [Node.id_mentionedAgain, hid, if_true]
        rw [hid] at hm'
        rw [hm', Node.mentionedAgain_settled]
      · rw [if_neg hid, if_neg (Ne.symm hid), List.append_nil]
        exact hm'
    -- a new id: nothing was given for it before
    · next hc =>
      have hnew : id ∉ named := by
        rw [h.ids_eq] at hc
        simpa using hc
      rcases List.mem_append.mp hn with hn | hn
      · have hmem : n.id ∈ c.ids := List.mem_map.mpr ⟨n, hn, rfl⟩
        have hne : id ≠ n.id := by
          intro e
          rw [h.ids_eq, ← e] at hmem
          exact hnew (List.mem_eraseDups.mp hmem)
        rw [if_neg hne, List.append_nil]
        exact h.node_eq n hn
      · rw [List.mem_singleton.mp hn]
        simp only [Node.id_mentioned, if_true, h.given_eq_nil id hnew, List.nil_append]
        exact Node.mentioned_eq_settled id label shape
  · intro x hx
    have hx1 : x ∉ named := fun hm => hx (List.mem_append_left _ hm)
    have hx2 : id ≠ x := fun e => hx (by simp [e])
    rw [h.given_eq_nil x hx1, if_neg hx2, List.append_nil]

/-- An edge names its two ends and gives no label. -/
theorem Settled.connect {named : List (List Char)} {given : List Char → List (List Char × Shape)}
    {c : Chart} (h : Settled named given c) (source target : List Char) :
    Settled (named ++ [source, target]) given (c.connect source target) := by
  have h2 := (h.register source none .bare).register target none .bare
  refine ⟨?_, ?_, ?_⟩
  · have := h2.ids_eq
    rw [List.append_assoc] at this
    exact this
  · intro n hn
    have := h2.node_eq n (by simpa [Chart.connect] using hn)
    simpa [supplied] using this
  · intro x hx
    exact h.given_eq_nil x fun hm => hx (List.mem_append_left _ hm)

/-- What one more mention adds to a history. -/
theorem Settled.mention {history : List Mention} {c : Chart}
    (h : Settled (history.flatMap Mention.ids) (fun id => history.flatMap (Mention.given id)) c)
    (m : Mention) :
    Settled ((history ++ [m]).flatMap Mention.ids)
      (fun id => (history ++ [m]).flatMap (Mention.given id)) (c.mention m) := by
  cases m with
  | node id label shape =>
    simpa [Mention.ids, Mention.given, Chart.mention] using h.register id label shape
  | edge source target =>
    simpa [Mention.ids, Mention.given, Chart.mention] using h.connect source target

/-- The chart of a history keeps the invariant. -/
theorem settled_ofMentions (history : List Mention) :
    Settled (history.flatMap Mention.ids) (fun id => history.flatMap (Mention.given id))
      (ofMentions history) := by
  induction history using List.reverseRecOn with
  | nil => exact ⟨rfl, fun n hn => absurd hn List.not_mem_nil, fun _ _ => rfl⟩
  | append_singleton history m ih =>
    have := ih.mention m
    rwa [ofMentions, List.foldl_append, List.foldl_cons, List.foldl_nil]

/-- Only the chart without mentions has no nodes. -/
theorem nodes_ofMentions_eq_nil_iff {history : List Mention} :
    (ofMentions history).nodes = [] ↔ history = [] := by
  constructor
  · intro h
    have hids : (history.flatMap Mention.ids).eraseDups = [] := by
      rw [← (settled_ofMentions history).ids_eq, ids, h, List.map_nil]
    have hnone : ∀ m ∈ history, m.ids = [] := by
      intro m hm
      refine List.eq_nil_iff_forall_not_mem.mpr fun id hid => ?_
      have hmem : id ∈ (history.flatMap Mention.ids).eraseDups :=
        List.mem_eraseDups.mpr (List.mem_flatMap.mpr ⟨m, hm, hid⟩)
      rw [hids] at hmem
      exact List.not_mem_nil hmem
    refine List.eq_nil_iff_forall_not_mem.mpr fun m hm => ?_
    have := hnone m hm
    cases m with
    | node id label shape => cases this
    | edge source target => cases this
  · rintro rfl
    rfl

/-- The edges of a chart are those of its history. -/
theorem edges_ofMentions (history : List Mention) :
    (ofMentions history).edges = history.filterMap Mention.edge? := by
  induction history using List.reverseRecOn with
  | nil => rfl
  | append_singleton history m ih =>
    rw [ofMentions, List.foldl_append, List.foldl_cons, List.foldl_nil, List.filterMap_append,
      ← ih]
    cases m with
    | node id label shape => simp [Chart.mention, Mention.edge?, ofMentions]
    | edge source target => simp [Chart.mention, Mention.edge?, ofMentions]

/-- The ends of an edge are among the ids that its mention names. -/
theorem mem_ids_of_mem_edges {history : List Mention} {e : Edge}
    (h : e ∈ history.filterMap Mention.edge?) :
    e.source ∈ history.flatMap Mention.ids ∧ e.target ∈ history.flatMap Mention.ids := by
  obtain ⟨m, hm, he⟩ := List.mem_filterMap.mp h
  cases m with
  | node id label shape => cases he
  | edge source target =>
    cases he
    exact ⟨List.mem_flatMap.mpr ⟨_, hm, by simp [Mention.ids]⟩,
      List.mem_flatMap.mpr ⟨_, hm, by simp [Mention.ids]⟩⟩

/-- In a chart without repeated ids, every node is found by its id. -/
theorem find?_of_mem_nodes {c : Chart} (h : c.ids.Nodup) {n : Node} (hn : n ∈ c.nodes) :
    c.find? n.id = some n :=
  find?_key h hn

/-- A chart is closed: no two nodes share an id, and the ends of its edges are nodes. -/
structure IsClosed (c : Chart) : Prop where
  nodup : c.ids.Nodup
  ends : ∀ e ∈ c.edges, e.source ∈ c.ids ∧ e.target ∈ c.ids

/-- The chart of a history is closed. -/
theorem isClosed_ofMentions (history : List Mention) : (ofMentions history).IsClosed := by
  have h := (settled_ofMentions history).ids_eq
  refine ⟨by rw [h]; exact nodup_eraseDups _, fun e he => ?_⟩
  rw [edges_ofMentions] at he
  rw [h, List.mem_eraseDups, List.mem_eraseDups]
  exact mem_ids_of_mem_edges he

/-- The chart of a history. Its nodes are the ids that were named, each once, in the order in which
they were named first; its edges are those that were mentioned, between its nodes. A node has the
first label that was given for its id and differs from it, with the shape that came along; if all
labels that were given are the id, it is shown by the id, in the shape that was given last; and if
none was given, it is bare. -/
theorem ofMentions_closed_form (history : List Mention) :
    (ofMentions history).ids = (history.flatMap Mention.ids).eraseDups ∧
    (ofMentions history).ids.Nodup ∧
    (ofMentions history).edges = history.filterMap Mention.edge? ∧
    (∀ e ∈ (ofMentions history).edges,
      e.source ∈ (ofMentions history).ids ∧ e.target ∈ (ofMentions history).ids) ∧
    ∀ n ∈ (ofMentions history).nodes, (ofMentions history).find? n.id = some n ∧
      (∀ label shape,
        (history.flatMap (Mention.given n.id)).find? (fun entry => entry.1 != n.id) =
            some (label, shape) →
          n.label = label ∧ n.shape = shape) ∧
      ((∀ entry ∈ history.flatMap (Mention.given n.id), entry.1 = n.id) → ∀ label shape,
        (history.flatMap (Mention.given n.id)).getLast? = some (label, shape) →
          n.label = n.id ∧ n.shape = shape) ∧
      (history.flatMap (Mention.given n.id) = [] → n.label = n.id ∧ n.shape = .bare) := by
  have h := settled_ofMentions history
  have hnd : (ofMentions history).ids.Nodup := by
    rw [h.ids_eq]
    exact nodup_eraseDups _
  refine ⟨h.ids_eq, hnd, edges_ofMentions history, ?_, ?_⟩
  · intro e he
    rw [edges_ofMentions] at he
    rw [h.ids_eq, List.mem_eraseDups, List.mem_eraseDups]
    exact mem_ids_of_mem_edges he
  · intro n hn
    have hlabel : n.label = (Node.settled n.id (history.flatMap (Mention.given n.id))).label :=
      congrArg Node.label (h.node_eq n hn)
    have hshape : n.shape = (Node.settled n.id (history.flatMap (Mention.given n.id))).shape :=
      congrArg Node.shape (h.node_eq n hn)
    refine ⟨find?_of_mem_nodes hnd hn, ?_, ?_, ?_⟩
    · intro label shape hf
      rw [hlabel, hshape]
      exact Node.settled_of_find? hf
    · intro hall label shape hl
      rw [hlabel, hshape]
      exact Node.settled_of_getLast? hall hl
    · intro hnil
      rw [hlabel, hshape, hnil]
      exact ⟨rfl, rfl⟩

end Chart

end TextDiagram.Flow
