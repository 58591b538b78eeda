import FlowBoard.Proofs.Graph.Pruning
import FlowBoard.Proofs.Tree.Walk

/-!
# The page of a tree without a walk

`flatPage` reads a page off the list of visits: of the shapes with one id the last, at the place of
the first; the connectors between shapes, which may stand before or after them; the notes; and for
every section id the shapes met after its last opening. `Visit.Shows` says which visits are a node,
an edge or a note, and with what record. Gathering and pruning a tree gives the same page.
-/

namespace FlowBoard

namespace Visit

def shapeIds (vs : List Visit) : List String := (nodes vs).map Node.id

/-- The sections that have members, in order of first opening. -/
def sections (vs : List Visit) : List Section :=
  (((distinct (openedIds vs)).filterMap (sectionAt? vs)).map fun group =>
    { group with members := distinct group.members }).filter fun group => !group.members.isEmpty

def flatPage (vs : List Visit) (id name : String) : Page where
  id
  name
  nodes := lastNodes (nodes vs)
  edges := (vs.filterMap edge?).filter fun edge =>
    edge.source ∈ shapeIds vs ∧ edge.target ∈ shapeIds vs
  sections := sections vs
  stickies := vs.filterMap note?

end Visit

namespace Tree

mutual

theorem exists_clean_firstText : (tree : Tree) → ∃ s, tree.firstText = Text.clean s
  | .node item none => ⟨_, rfl⟩
  | .node item (some children) => by
    rw [firstText]
    split_ifs
    · exact exists_clean_firstTextOf children
    · exact ⟨_, rfl⟩

theorem exists_clean_firstTextOf : (trees : List Tree) → ∃ s, firstTextOf trees = Text.clean s
  | [] => ⟨"", rfl⟩
  | tree :: rest => by
    rw [firstTextOf]
    split_ifs
    · exact exists_clean_firstTextOf rest
    · exact exists_clean_firstText tree

end

theorem isBlankText_firstText {tree : Tree} (h : tree.firstText ≠ "") :
    Text.isBlankText tree.firstText = false := by
  obtain ⟨s, hs⟩ := tree.exists_clean_firstText
  rw [hs] at h ⊢
  exact Text.isBlankText_clean h

theorem isBlankText_shapeLabel (tree : Tree) : Text.isBlankText tree.shapeLabel = false := by
  have hword : Text.isBlankText "Node " = false := by decide
  apply Text.isBlankText_orElse isBlankText_firstText
  apply Text.isBlankText_orElse Text.isBlankText_clean
  rw [Text.isBlankText_append, hword, Bool.false_and]

theorem isBlankText_stickyNote? {tree : Tree} {note : StickyNote}
    (h : tree.stickyNote? = some note) : Text.isBlankText note.text = false := by
  by_cases hfirst : tree.firstText = ""
  · simp only [stickyNote?, Text.orElse, hfirst, String.isEmpty_iff, if_true] at h
    split_ifs at h with hname
    cases h
    exact Text.isBlankText_clean hname
  · simp only [stickyNote?, Text.orElse, String.isEmpty_iff, hfirst, if_false] at h
    cases h
    exact isBlankText_firstText hfirst

end Tree

/-! ## Pruning what is gathered -/

namespace Visit

variable {vs : List Visit}

theorem isBlankText_of_mem_nodes {node : Node} (h : node ∈ nodes vs) :
    Text.isBlankText node.label = false := by
  obtain ⟨v, _, hv⟩ := List.mem_filterMap.mp h
  rw [node?] at hv
  split_ifs at hv
  cases hv
  exact v.tree.isBlankText_shapeLabel

theorem mem_shapeIds_of_mem_sectionAt? {id member : String} {group : Section}
    (h : sectionAt? vs id = some group) (hm : member ∈ group.members) : member ∈ shapeIds vs := by
  obtain ⟨⟨before, opening, after⟩, hsplit, rfl⟩ := Option.map_eq_some_iff.mp h
  have hafter : member ∈ shapeIds after := by
    simp only [membersIn] at hm
    split_ifs at hm
    · simp at hm
    · obtain ⟨node, hn, rfl⟩ := List.mem_map.mp hm
      exact List.mem_map_of_mem (List.mem_of_mem_filter hn)
  have hsub : after.Sublist vs := by
    rw [(lastOpening?_eq_some_iff.mp hsplit).1]
    exact (List.sublist_cons_self _ _).trans (List.sublist_append_right _ _)
  exact ((hsub.filterMap node?).map Node.id).subset hafter

end Visit

namespace Summary

variable {vs : List Visit} {out : Gathered}

theorem values_nodes (h : Summary vs out) : out.nodes.values = lastNodes (Visit.nodes vs) := by
  rw [h.nodes, values_ofList_nodes]

theorem values_sections (h : Summary vs out) :
    out.sections.values = (distinct (Visit.openedIds vs)).filterMap (Visit.sectionAt? vs) := by
  rw [Keyed.values_eq_filterMap (h.keys_sections ▸ nodup_distinct _), h.keys_sections]
  simp only [h.find?_sections]

theorem mem_nodeIds (h : Summary vs out) {id name nodeId : String} :
    nodeId ∈ (out.page id name).nodeIds ↔ nodeId ∈ Visit.shapeIds vs := by
  have hids : (out.page id name).nodeIds = distinct (Visit.shapeIds vs) := by
    rw [Page.nodeIds, Gathered.page, h.values_nodes, map_id_lastNodes, Visit.shapeIds]
  rw [hids, mem_distinct]

theorem prunedNodes_page (h : Summary vs out) (id name : String) :
    (out.page id name).prunedNodes = lastNodes (Visit.nodes vs) := by
  have hnodes : (out.page id name).nodes = lastNodes (Visit.nodes vs) := h.values_nodes
  have hnodup : ((lastNodes (Visit.nodes vs)).map Node.id).Nodup := by
    rw [map_id_lastNodes]
    exact nodup_distinct _
  rw [Page.prunedNodes_eq, hnodes, lastNodes_eq_self hnodup]
  refine (List.map_congr_left fun node hn => ?_).trans (List.map_id _)
  exact Node.labelled_eq_self (Visit.isBlankText_of_mem_nodes (mem_of_mem_lastNodes hn))

theorem prunedEdges_page (h : Summary vs out) (id name : String) :
    (out.page id name).prunedEdges = (Visit.flatPage vs id name).edges := by
  have hedges : (out.page id name).edges = vs.filterMap Visit.edge? := h.edges
  rw [Page.prunedEdges, hedges, Visit.flatPage]
  apply List.filter_congr
  intro edge _
  rw [Bool.eq_iff_iff, Bool.and_eq_true, Page.hasNode_iff, Page.hasNode_iff, h.mem_nodeIds,
    h.mem_nodeIds, decide_eq_true_iff]

theorem prunedSections_page (h : Summary vs out) (id name : String) :
    (out.page id name).prunedSections = Visit.sections vs := by
  have hsections : (out.page id name).sections =
      (distinct (Visit.openedIds vs)).filterMap (Visit.sectionAt? vs) := h.values_sections
  rw [Page.prunedSections, Visit.sections, hsections]
  congr 1
  apply List.map_congr_left
  intro group hg
  obtain ⟨groupId, _, hat⟩ := List.mem_filterMap.mp hg
  have hall : ∀ member ∈ distinct group.members, (out.page id name).hasNode member = true := by
    intro member hm
    rw [Page.hasNode_iff, h.mem_nodeIds]
    exact Visit.mem_shapeIds_of_mem_sectionAt? hat (mem_distinct.mp hm)
  rw [Page.membersOf, List.filter_eq_self.mpr hall]

theorem prunedStickies_page (h : Summary vs out) (id name : String) :
    (out.page id name).prunedStickies = vs.filterMap Visit.note? := by
  have hnotes : (out.page id name).stickies = vs.filterMap Visit.note? := h.stickies
  rw [Page.prunedStickies, hnotes]
  apply List.filter_eq_self.mpr
  intro note hn
  obtain ⟨v, _, hv⟩ := List.mem_filterMap.mp hn
  rw [Visit.note?] at hv
  split_ifs at hv
  rw [Tree.isBlankText_stickyNote? hv]
  rfl

theorem page_eq (h : Summary vs out) (id name : String) :
    (out.page id name).prune = Visit.flatPage vs id name := by
  rw [Page.prune, h.prunedNodes_page, h.prunedEdges_page, h.prunedSections_page,
    h.prunedStickies_page]
  rfl

end Summary

/-! ## What a visit shows -/

/-- The item that an end of a connector is attached to: one with an id that is not empty. -/
def Endpoint.Holds (endpoint : Option Endpoint) (id : String) : Prop :=
  (∃ e, endpoint = some e ∧ e.itemId = some id) ∧ id ≠ ""

theorem Tree.attached?_eq_some_iff {endpoint : Option Endpoint} {id : String} :
    attached? endpoint = some id ↔ Endpoint.Holds endpoint id := by
  rw [attached?, Option.filter_eq_some_iff, Option.bind_eq_some_iff]
  simp [Endpoint.Holds]

/-- What a visit shows, field by field. -/
structure Visit.Shows (v : Visit) : Prop where
  node : v.node? =
    if v.tree.item.kind = "SHAPE_WITH_TEXT" then some {
      id := v.tree.item.id
      label :=
        if v.tree.firstText ≠ "" then v.tree.firstText
        else if v.tree.item.cleanName ≠ "" then v.tree.item.cleanName
        else "Node " ++
          (if Text.clean v.tree.item.id ≠ "" then Text.clean v.tree.item.id else "unknown")
      shape := v.tree.item.shape
      x := v.tree.item.box.map fun box => .binary (.finite box.x)
      y := v.tree.item.box.map fun box => .binary (.finite box.y)
      sectionId := v.sectionId }
    else none
  edge : ∀ edge, v.edge? = some edge ↔ v.tree.item.kind = "CONNECTOR" ∧ ∃ first last,
    Endpoint.Holds v.tree.item.start first ∧ Endpoint.Holds v.tree.item.finish last ∧
      edge = Connector.edge first last v.tree.item.startCap v.tree.item.finishCap
        (if v.tree.firstText ≠ "" then some v.tree.firstText else none)
  note : ∀ note, v.note? = some note ↔ v.tree.item.kind = "STICKY" ∧ note.id = v.tree.item.id ∧
    note.text = (if v.tree.firstText ≠ "" then v.tree.firstText else v.tree.item.cleanName) ∧
      note.text ≠ ""
  opened : ∀ id, v.opened? = some id ↔ v.tree.item.kind = "SECTION" ∧ v.tree.item.id = id

theorem Text.orElse_eq_ite (s t : String) : Text.orElse s t = if s ≠ "" then s else t := by
  by_cases h : s = "" <;> simp [Text.orElse, h]

theorem Tree.connectorEdge?_eq_some_iff {tree : Tree} {edge : Edge} :
    tree.connectorEdge? = some edge ↔ ∃ first last,
      Endpoint.Holds tree.item.start first ∧ Endpoint.Holds tree.item.finish last ∧
        edge = Connector.edge first last tree.item.startCap tree.item.finishCap
          (if tree.firstText ≠ "" then some tree.firstText else none) := by
  have hlabel : (if tree.firstText.isEmpty then none else some tree.firstText) =
      if tree.firstText ≠ "" then some tree.firstText else none := by
    by_cases h : tree.firstText = "" <;> simp [h]
  simp only [connectorEdge?, hlabel, Option.bind_eq_bind, Option.bind_eq_some_iff,
    attached?_eq_some_iff, Option.pure_def, Option.some.injEq, @eq_comm _ edge]
  exact ⟨fun ⟨first, hfirst, last, hlast, h⟩ => ⟨first, last, hfirst, hlast, h⟩,
    fun ⟨first, last, hfirst, hlast, h⟩ => ⟨first, hfirst, last, hlast, h⟩⟩

theorem Tree.stickyNote?_eq_some_iff {tree : Tree} {note : StickyNote} :
    tree.stickyNote? = some note ↔ note.id = tree.item.id ∧
      note.text = (if tree.firstText ≠ "" then tree.firstText else tree.item.cleanName) ∧
        note.text ≠ "" := by
  rw [stickyNote?, Text.orElse_eq_ite]
  generalize (if tree.firstText ≠ "" then tree.firstText else tree.item.cleanName) = text
  obtain ⟨id, noteText⟩ := note
  by_cases h : text = ""
  · rw [h, if_pos (by decide)]
    exact iff_of_false (fun hnone => nomatch hnone) fun ⟨_, hempty, hne⟩ => hne hempty
  · have hne : text.isEmpty = false := by simpa using h
    simp only [hne, Bool.false_eq_true, if_false, Option.some.injEq, StickyNote.mk.injEq]
    exact ⟨fun ⟨hid, htext⟩ => ⟨hid.symm, htext.symm, htext ▸ h⟩,
      fun ⟨hid, htext, _⟩ => ⟨hid.symm, htext.symm⟩⟩

theorem Visit.shows (v : Visit) : v.Shows where
  node := by
    simp only [← Text.orElse_eq_ite]
    rfl
  edge edge := by
    rw [← Tree.connectorEdge?_eq_some_iff, edge?, Option.ite_none_right_eq_some]
    rfl
  note note := by
    rw [← Tree.stickyNote?_eq_some_iff, note?, Option.ite_none_right_eq_some]
    rfl
  opened id := by
    rw [opened?, Option.ite_none_right_eq_some, Option.some.injEq]
    rfl

/-- Gathering and pruning a tree gives the page that is read off its visits, each of which shows
what its item says. -/
theorem Tree.page_eq_flatPage (tree : Tree) (id name : String) :
    tree.page id name = Visit.flatPage (tree.visits none) id name ∧
      ∀ v ∈ tree.visits none, v.Shows :=
  ⟨(Summary.gather tree).page_eq id name, fun v _ => v.shows⟩

end FlowBoard
