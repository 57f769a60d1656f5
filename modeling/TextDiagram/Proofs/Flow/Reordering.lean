import Mathlib.Data.List.Perm.Basic
import TextDiagram.Proofs.Diagram
import TextDiagram.Proofs.Except
import TextDiagram.Proofs.Flow.History
import TextDiagram.Proofs.Statement

/-!
# The order of statements

A chart is settled by what was given for each id, so that its history may come in another order: the
chart names the same ids (`ids_ofMentions_perm`) and has the same edges (`edges_ofMentions_perm`),
and a node for which all labels that were given agree stays as it is (`mem_nodes_of_perm`). Main
statement: the statements below the heading of a flow chart may be put in any order
(`ofSource_reordered`).
-/

namespace TextDiagram

namespace Flow

/-- The labels with their shapes that some statements give for an id. -/
def labelsGiven (statements : List (List Char)) (id : List Char) : List (List Char × Shape) :=
  statements.flatMap fun s => (read s).mentions.flatMap (Mention.given id)

namespace Chart

variable {history history' : List Mention} (h : history.Perm history')

include h

theorem ids_ofMentions_perm : (ofMentions history).ids.Perm (ofMentions history').ids := by
  have hnodup : (ofMentions history).ids.Nodup := (isClosed_ofMentions history).nodup
  have hnodup' : (ofMentions history').ids.Nodup := (isClosed_ofMentions history').nodup
  rw [List.perm_ext_iff_of_nodup hnodup hnodup']
  intro id
  rw [(settled_ofMentions history).ids_eq, (settled_ofMentions history').ids_eq,
    List.mem_eraseDups, List.mem_eraseDups]
  exact (h.flatMap_right Mention.ids).mem_iff

theorem edges_ofMentions_perm : (ofMentions history).edges.Perm (ofMentions history').edges := by
  rw [edges_ofMentions, edges_ofMentions]
  exact h.filterMap Mention.edge?

/-- A node stays as it is in another order if the labels that were given for it agree. -/
theorem mem_nodes_of_perm {n : Node} (hn : n ∈ (ofMentions history).nodes)
    (hagree : ∀ entry ∈ history.flatMap (Mention.given n.id),
      ∀ other ∈ history.flatMap (Mention.given n.id), entry = other) :
    n ∈ (ofMentions history').nodes := by
  have hgiven : history.flatMap (Mention.given n.id) = history'.flatMap (Mention.given n.id) := by
    have hperm := h.flatMap_right (Mention.given n.id)
    have hpairs : (history.flatMap (Mention.given n.id)).Pairwise Eq :=
      List.pairwise_of_forall_mem_list hagree
    have hpairs' : (history'.flatMap (Mention.given n.id)).Pairwise Eq := by
      refine List.pairwise_of_forall_mem_list fun entry hentry other hother => ?_
      exact hagree entry (hperm.mem_iff.mpr hentry) other (hperm.mem_iff.mpr hother)
    -- equality orders the items of both lists, so that they come in one order only
    exact hperm.eq_of_pairwise (fun _ _ _ _ heq _ => heq) hpairs hpairs'
  have hid : n.id ∈ (ofMentions history').ids :=
    (ids_ofMentions_perm h).mem_iff.mp (List.mem_map_of_mem hn)
  obtain ⟨m, hm, hmid⟩ := List.mem_map.mp hid
  have hsame : n = m := by
    rw [(settled_ofMentions history).node_eq n hn, (settled_ofMentions history').node_eq m hm,
      hmid, hgiven]
  rw [hsame]
  exact hm

end Chart

end Flow

namespace Diagram

/-- A source with the heading of a flow chart describes the chart of the other statements. -/
theorem ofSource_of_opensFlow {source first : List Char} {body : List (List Char)}
    (hsource : statements source = first :: body) (hopens : OpensFlow (first :: body)) :
    ofSource source = ofFlow (headingDirection first) body := by
  have hheading : Heading.ofStatements? first body = some (.flow (headingDirection first)) := by
    rcases ofStatements?_cases first body with ⟨hs, -⟩ | ⟨-, h⟩ | ⟨hu, -⟩ | ⟨-, hf, -⟩
    · exact absurd hs hopens.1
    · exact h
    · exact absurd hopens hu.2.1
    · exact absurd hopens hf
  rw [ofSource, hsource, ofStatements, hheading]

/-- The statements below the heading of a flow chart may be put in any order, and each order is that
of a source. Either none of the sources has a node, or they describe charts that are read in the same
direction, have the same ids, each once, and have the same edges, each as often. A node is also shown
in the same way in both if the labels that are given for it, with their shapes, are all the same. -/
theorem ofSource_reordered {source first : List Char} {body body' : List (List Char)}
    (hsource : statements source = first :: body) (hopens : OpensFlow (first :: body))
    (hperm : body.Perm body') :
    statements (['\n'].intercalate (first :: body')) = first :: body' ∧
    ∀ source', statements source' = first :: body' →
      (ofSource source = .error .noNodes ∧ ofSource source' = .error .noNodes) ∨
      ∃ c c' direction, ofSource source = .ok (.flow c direction) ∧
        ofSource source' = .ok (.flow c' direction) ∧
        (c.ids.Perm c'.ids ∧ c.ids.Nodup) ∧ c.edges.Perm c'.edges ∧
        ∀ n ∈ c.nodes, (∀ entry ∈ Flow.labelsGiven body n.id,
          ∀ other ∈ Flow.labelsGiven body n.id, entry = other) → n ∈ c'.nodes := by
  constructor
  · refine statements_intercalate_of_mem (by decide) fun s hs => ⟨source, ?_⟩
    rw [hsource, (hperm.cons first).mem_iff]
    exact hs
  intro source' hsource'
  have hmentions := hperm.flatMap_right fun s => (Flow.read s).mentions
  have hids : (Flow.Chart.ofStatements body).ids.Perm (Flow.Chart.ofStatements body').ids :=
    Flow.Chart.ids_ofMentions_perm hmentions
  have hnil : (Flow.Chart.ofStatements body).nodes = [] ↔
      (Flow.Chart.ofStatements body').nodes = [] := by
    have hlength := hids.length_eq
    simp only [Flow.Chart.ids, List.length_map] at hlength
    rw [← List.length_eq_zero_iff, hlength, List.length_eq_zero_iff]
  rw [ofSource_of_opensFlow hsource hopens, ofSource_of_opensFlow hsource' hopens]
  by_cases hempty : (Flow.Chart.ofStatements body).nodes = []
  · left
    simp [ofFlow, hempty, hnil.mp hempty]
  · right
    refine ⟨_, _, headingDirection first, ofFlow_eq_ok_iff.mpr ⟨hempty, rfl⟩,
      ofFlow_eq_ok_iff.mpr ⟨fun h => hempty (hnil.mpr h), rfl⟩, ⟨hids, ?_⟩, ?_, ?_⟩
    · exact (Flow.Chart.isClosed_ofMentions _).nodup
    · exact Flow.Chart.edges_ofMentions_perm hmentions
    · intro n hn hagree
      refine Flow.Chart.mem_nodes_of_perm hmentions hn ?_
      rw [List.flatMap_assoc]
      exact hagree

/-- Statements that mention a node before its label is given. -/
def scatteredStatements : List (List Char) :=
  ["A --> B".toList, "B[B]".toList, "A(Start)".toList]

/-- The source of these statements. -/
def scatteredSource : List Char := "graph LR\nA --> B\nB[B];A(Start)".toList

theorem ofSource_reordered_scattered :
    statements scatteredSource = "graph LR".toList :: scatteredStatements ∧
    OpensFlow ("graph LR".toList :: scatteredStatements) ∧
    scatteredStatements.Perm scatteredStatements.reverse ∧
    (∀ entry ∈ Flow.labelsGiven scatteredStatements "A".toList,
      ∀ other ∈ Flow.labelsGiven scatteredStatements "A".toList, entry = other) ∧
    ∃ c c' direction, ofSource scatteredSource = .ok (.flow c direction) ∧
      ofSource (['\n'].intercalate ("graph LR".toList :: scatteredStatements.reverse)) =
        .ok (.flow c' direction) ∧
      (c.ids.Perm c'.ids ∧ c.ids.Nodup) ∧ c.edges.Perm c'.edges ∧
      ⟨"A".toList, "Start".toList, .round⟩ ∈ c.nodes ∧
      ⟨"A".toList, "Start".toList, .round⟩ ∈ c'.nodes := by
  have hsource : statements scatteredSource = "graph LR".toList :: scatteredStatements := by
    decide +kernel
  have hopens : OpensFlow ("graph LR".toList :: scatteredStatements) := by
    rw [opensFlow_iff, opensSequence_iff]
    decide +kernel
  have hperm : scatteredStatements.Perm scatteredStatements.reverse := by
    decide +kernel
  have hagree : ∀ entry ∈ Flow.labelsGiven scatteredStatements "A".toList,
      ∀ other ∈ Flow.labelsGiven scatteredStatements "A".toList, entry = other := by
    decide +kernel
  have hc : ofSource scatteredSource = .ok (.flow ⟨[⟨"A".toList, "Start".toList, .round⟩,
      ⟨"B".toList, "B".toList, .square⟩], [⟨"A".toList, "B".toList⟩]⟩ .right) :=
    eq_ok_of_toOption (by decide +kernel)
  refine ⟨hsource, hopens, hperm, hagree, ?_⟩
  obtain ⟨hsource', h⟩ := ofSource_reordered hsource hopens hperm
  rcases h _ hsource' with ⟨hnone, -⟩ | ⟨c, c', direction, hok, hok', hids, hedges, hnodes⟩
  · rw [hc] at hnone
    cases hnone
  · have hchart := hok
    rw [hc] at hchart
    cases hchart
    exact ⟨_, c', _, hok, hok', hids, hedges, List.mem_cons_self ..,
      hnodes _ (List.mem_cons_self ..) hagree⟩

end Diagram

end TextDiagram
