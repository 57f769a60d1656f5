import Mathlib.Tactic.Common
import TextDiagram.Flow.Statement

/-!
# A flow chart grows

A mention only adds to a chart: nodes and edges stay where they are, and a node that has a label of
its own keeps it (`Chart.IsKeptIn`). So does every run of mentions. Main statement: the chart of
some statements is kept in the chart of these and further statements
(`isKeptIn_ofStatements_append`).
-/

namespace TextDiagram.Flow

/-- A node that is not shown by its id takes no further label. -/
theorem Node.mentionedAgain_of_ne {n : Node} (h : n.label ≠ n.id) (label : Option (List Char))
    (shape : Shape) : n.mentionedAgain label shape = n := by
  unfold mentionedAgain
  split
  · rfl
  · exact if_neg (by simpa [isUnlabelled] using h)

namespace Chart

/-- What a chart says is kept in another one. The ids and the edges of the other chart go on where
those of the first end, and nodes with a label of their own are the same at the same places. -/
structure IsKeptIn (c c' : Chart) : Prop where
  ids : c.ids <+: c'.ids
  edges : c.edges <+: c'.edges
  labelled : ∀ (i : Nat) (n : Node), c.nodes[i]? = some n → n.label ≠ n.id → c'.nodes[i]? = some n

namespace IsKeptIn

variable {c c' c'' : Chart}

theorem refl (c : Chart) : c.IsKeptIn c :=
  ⟨List.prefix_refl _, List.prefix_refl _, fun _ _ h _ => h⟩

theorem trans (h : c.IsKeptIn c') (h' : c'.IsKeptIn c'') : c.IsKeptIn c'' :=
  ⟨h.ids.trans h'.ids, h.edges.trans h'.edges,
    fun i n hi hn => h'.labelled i n (h.labelled i n hi hn) hn⟩

theorem nodes_ne_nil (h : c.IsKeptIn c') (hne : c.nodes ≠ []) : c'.nodes ≠ [] := by
  have hids : c'.ids ≠ [] := h.ids.ne_nil (by simpa [Chart.ids] using hne)
  simpa [Chart.ids] using hids

end IsKeptIn

/-- A mention of a node keeps what was said: a known node takes a label only while it has none of
its own, and a new one comes at the end. -/
theorem isKeptIn_register (c : Chart) (id : List Char) (label : Option (List Char))
    (shape : Shape) : c.IsKeptIn (c.register id label shape) := by
  refine ⟨?_, ?_, fun i n hi hn => ?_⟩
  · rw [ids_register]
    split
    · exact List.prefix_refl _
    · exact List.prefix_append _ _
  · exact edges_register c id label shape ▸ List.prefix_refl _
  · unfold register
    split
    · rw [List.getElem?_map, hi, Option.map_some]
      split
      · rw [Node.mentionedAgain_of_ne hn]
      · rfl
    · obtain ⟨hlt, -⟩ := List.getElem?_eq_some_iff.mp hi
      rw [List.getElem?_append_left hlt]
      exact hi

/-- An edge comes at the end, after its two ends. -/
theorem isKeptIn_connect (c : Chart) (source target : List Char) :
    c.IsKeptIn (c.connect source target) := by
  have hends := (c.isKeptIn_register source none .bare).trans
    (isKeptIn_register _ target none .bare)
  refine ⟨hends.ids, ?_, hends.labelled⟩
  rw [edges_connect]
  exact List.prefix_append _ _

/-- One more mention keeps what was said. -/
theorem isKeptIn_mention (c : Chart) (m : Mention) : c.IsKeptIn (c.mention m) := by
  cases m with
  | node id label shape => exact c.isKeptIn_register id label shape
  | edge source target => exact c.isKeptIn_connect source target

/-- Any further mentions keep what was said. -/
theorem isKeptIn_foldl_mention (c : Chart) (mentions : List Mention) :
    c.IsKeptIn (mentions.foldl mention c) := by
  induction mentions generalizing c with
  | nil => exact IsKeptIn.refl c
  | cons m mentions ih => exact (c.isKeptIn_mention m).trans (ih (c.mention m))

/-- Further statements keep what the statements before them say. -/
theorem isKeptIn_ofStatements_append (statements more : List (List Char)) :
    (ofStatements statements).IsKeptIn (ofStatements (statements ++ more)) := by
  unfold ofStatements ofMentions
  rw [List.flatMap_append, List.foldl_append]
  exact isKeptIn_foldl_mention _ _

end Chart

end TextDiagram.Flow
