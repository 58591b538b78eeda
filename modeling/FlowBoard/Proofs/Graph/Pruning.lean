import FlowBoard.Graph.Prune
import FlowBoard.Proofs.Graph.Nodes
import FlowBoard.Proofs.Text.Blank

/-!
# Pruned pages are canonical

Pruning keeps the node ids, each once, with the last node of each, and every page that it gives is
canonical; a canonical page is left as it is.
-/

namespace FlowBoard

namespace Node

theorem labelled_eq_self {node : Node} (h : Text.isBlankText node.label = false) :
    node.labelled = node := by
  simp [labelled, h]

theorem isBlankText_label_labelled (node : Node) :
    Text.isBlankText node.labelled.label = false := by
  unfold labelled
  split_ifs with h
  · have hword : Text.isBlankText "Node " = false := by decide
    rw [Text.isBlankText_append, hword, Bool.false_and]
  · simpa using h

theorem labelled_x (node : Node) : node.labelled.x = node.x := by
  unfold labelled
  split_ifs <;> rfl

theorem labelled_y (node : Node) : node.labelled.y = node.y := by
  unfold labelled
  split_ifs <;> rfl

end Node

namespace Page

variable {page : Page}

theorem prunedNodes_eq (page : Page) :
    page.prunedNodes = (lastNodes page.nodes).map Node.labelled := by
  rw [prunedNodes, Keyed.values_ofList, lastNodes, List.map_filterMap]
  rfl

theorem prunedNodes_of_nodup (h : page.nodeIds.Nodup) :
    page.prunedNodes = page.nodes.map Node.labelled := by
  rw [prunedNodes_eq, lastNodes_eq_self h]

theorem nodeIds_prune (page : Page) : page.prune.nodeIds = distinct page.nodeIds := by
  have hid : page.prunedNodes.map Node.id = (lastNodes page.nodes).map Node.id := by
    rw [prunedNodes_eq, List.map_map]
    exact List.map_congr_left fun node _ => node.labelled_id
  exact hid.trans (map_id_lastNodes page.nodes)

theorem mem_nodeIds_prune {id : String} : id ∈ page.prune.nodeIds ↔ id ∈ page.nodeIds := by
  rw [nodeIds_prune, mem_distinct]

theorem exists_of_mem_prunedNodes {node : Node} (h : node ∈ page.prunedNodes) :
    ∃ n ∈ page.nodes, node = n.labelled := by
  rw [prunedNodes_eq] at h
  obtain ⟨n, hn, rfl⟩ := List.mem_map.mp h
  exact ⟨n, mem_of_mem_lastNodes hn, rfl⟩

theorem nodup_membersOf (page : Page) (group : Section) : (page.membersOf group).Nodup :=
  (nodup_distinct _).filter _

theorem mem_membersOf {group : Section} {id : String} :
    id ∈ page.membersOf group ↔ id ∈ group.members ∧ id ∈ page.nodeIds := by
  rw [membersOf, List.mem_filter, mem_distinct, hasNode_iff]

theorem mem_prunedSections {group : Section} (h : group ∈ page.prunedSections) :
    ∃ g ∈ page.sections, group = { g with members := page.membersOf g } ∧ group.members ≠ [] := by
  obtain ⟨hmem, hne⟩ := List.mem_filter.mp h
  obtain ⟨g, hg, rfl⟩ := List.mem_map.mp hmem
  exact ⟨g, hg, rfl, by simpa using hne⟩

/-- Pruning gives a canonical page, whatever the page was. -/
theorem canonical_prune (page : Page) : page.prune.Canonical where
  nodup_nodeIds := by
    rw [nodeIds_prune]
    exact nodup_distinct _
  labelled node hn := by
    obtain ⟨n, _, rfl⟩ := exists_of_mem_prunedNodes hn
    exact n.isBlankText_label_labelled
  resolved edge he := by
    have hends := (List.mem_filter.mp he).2
    rw [Bool.and_eq_true, hasNode_iff, hasNode_iff] at hends
    exact ⟨mem_nodeIds_prune.mpr hends.1, mem_nodeIds_prune.mpr hends.2⟩
  grouped group hg := by
    obtain ⟨g, _, rfl, hne⟩ := mem_prunedSections hg
    exact ⟨hne, page.nodup_membersOf g,
      fun id hid => mem_nodeIds_prune.mpr (mem_membersOf.mp hid).2⟩
  noted note hn := by simpa using (List.mem_filter.mp hn).2

namespace Canonical

theorem prunedNodes_eq (h : page.Canonical) : page.prunedNodes = page.nodes := by
  rw [prunedNodes_of_nodup h.nodup_nodeIds]
  exact (List.map_congr_left fun node hn => Node.labelled_eq_self (h.labelled node hn)).trans
    (List.map_id _)

theorem prunedEdges_eq (h : page.Canonical) : page.prunedEdges = page.edges := by
  apply List.filter_eq_self.mpr
  intro edge he
  obtain ⟨hs, ht⟩ := h.resolved edge he
  rw [Bool.and_eq_true, hasNode_iff, hasNode_iff]
  exact ⟨hs, ht⟩

theorem membersOf_eq (h : page.Canonical) {group : Section} (hg : group ∈ page.sections) :
    page.membersOf group = group.members := by
  obtain ⟨_, hnodup, hmem⟩ := h.grouped group hg
  rw [membersOf, distinct_of_nodup hnodup]
  exact List.filter_eq_self.mpr fun id hid => hasNode_iff.mpr (hmem id hid)

theorem prunedSections_eq (h : page.Canonical) : page.prunedSections = page.sections := by
  have hmap : (page.sections.map fun group => { group with members := page.membersOf group }) =
      page.sections := by
    refine (List.map_congr_left fun group hg => ?_).trans (List.map_id _)
    rw [h.membersOf_eq hg]
    rfl
  rw [prunedSections, hmap]
  exact List.filter_eq_self.mpr fun group hg => by simpa using (h.grouped group hg).1

theorem prunedStickies_eq (h : page.Canonical) : page.prunedStickies = page.stickies :=
  List.filter_eq_self.mpr fun note hn => by simpa using h.noted note hn

/-- A canonical page is left as it is. -/
theorem prune_eq (h : page.Canonical) : page.prune = page := by
  rw [prune, h.prunedNodes_eq, h.prunedEdges_eq, h.prunedSections_eq, h.prunedStickies_eq]

end Canonical

end Page

end FlowBoard
