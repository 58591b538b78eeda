import FlowBoard.Proofs.Graph.Pruning

/-!
# Pruning as a closure

`Keeps page kept` says what stays of a page in another one, and nothing of how it is found: places
are told by first and last occurrence, not by keyed entries. Exactly one page is what stays of a
page, and pruning gives it. To prune twice is to prune once, and the pages that pruning leaves alone
are the canonical ones.
-/

namespace FlowBoard

variable {κ : Type} [DecidableEq κ] {ks ds ds' : List κ}

/-! ## Order of first occurrence -/

/-- The members come in the order in which they first occur in `ks`, each once. -/
def InOrderOf (ks ds : List κ) : Prop := ds.Pairwise fun a b => ks.idxOf a < ks.idxOf b

namespace InOrderOf

theorem sublist (h : InOrderOf ks ds) (hsub : ds'.Sublist ds) : InOrderOf ks ds' :=
  List.Pairwise.sublist hsub h

theorem nodup (h : InOrderOf ks ds) : ds.Nodup := by
  refine List.Pairwise.imp ?_ h
  rintro a b hab rfl
  exact Nat.lt_irrefl _ hab

/-- Which members there are determines the list. -/
theorem eq_of_mem_iff (h : InOrderOf ks ds) (h' : InOrderOf ks ds')
    (hmem : ∀ k, k ∈ ds ↔ k ∈ ds') : ds = ds' := by
  have hperm : ds.Perm ds' := (List.perm_ext_iff_of_nodup h.nodup h'.nodup).mpr hmem
  refine hperm.eq_of_pairwise ?_ h h'
  intro a b _ _ hab hba
  exact absurd hab (Nat.lt_asymm hba)

end InOrderOf

theorem inOrderOf_distinct (ks : List κ) : InOrderOf ks (distinct ks) := by
  induction ks with
  | nil => exact List.Pairwise.nil
  | cons k rest ih =>
    have hlater : InOrderOf (k :: rest) ((distinct rest).filter (· ≠ k)) := by
      refine List.Pairwise.imp_of_mem ?_ (ih.sublist List.filter_sublist)
      intro a b ha hb hab
      have hak : a ≠ k := by simpa using (List.mem_filter.mp ha).2
      have hbk : b ≠ k := by simpa using (List.mem_filter.mp hb).2
      rw [List.idxOf_cons_ne _ hak.symm, List.idxOf_cons_ne _ hbk.symm]
      exact Nat.succ_lt_succ hab
    refine List.pairwise_cons.mpr ⟨fun b hb => ?_, hlater⟩
    have hbk : b ≠ k := by simpa using (List.mem_filter.mp hb).2
    rw [List.idxOf_cons_self, List.idxOf_cons_ne _ hbk.symm]
    exact Nat.succ_pos _

/-! ## The last node of an id -/

/-- No later node of the list has the same id. -/
def IsLast (nodes : List Node) (node : Node) : Prop :=
  ∃ before after, nodes = before ++ node :: after ∧ ∀ later ∈ after, later.id ≠ node.id

theorem isLast_iff {nodes : List Node} {node : Node} :
    IsLast nodes node ↔ lastNode? nodes node.id = some node := by
  rw [lastNode?, List.find?_eq_some_iff_append]
  constructor
  · rintro ⟨before, after, rfl, hlater⟩
    refine ⟨by simp, after.reverse, before.reverse, by simp, fun later hl => ?_⟩
    simpa using hlater later (List.mem_reverse.mp hl)
  · rintro ⟨-, after, before, hnodes, hlater⟩
    refine ⟨before.reverse, after.reverse, ?_, fun later hl => ?_⟩
    · rw [← List.reverse_reverse nodes, hnodes]
      simp
    · simpa using hlater later (List.mem_reverse.mp hl)

/-- The node as it is shown: a blank label, and no other, is replaced by the word and the id. -/
def Node.Shows (node shown : Node) : Prop :=
  Text.isBlankText node.label = false ∧ shown = node ∨
    Text.isBlankText node.label = true ∧ shown = { node with label := "Node " ++ node.id }

theorem Node.shows_iff {node shown : Node} : node.Shows shown ↔ shown = node.labelled := by
  unfold Shows labelled
  cases Text.isBlankText node.label <;> simp

/-! ## What stays of a page -/

namespace Page

/-- A section stays with those of its members that are nodes of the page. -/
structure Regroups (page : Page) (group kept : Section) : Prop where
  id : kept.id = group.id
  label : kept.label = group.label
  members : ∀ id, id ∈ kept.members ↔ id ∈ group.members ∧ id ∈ page.nodeIds
  order : InOrderOf group.members kept.members

/-- What stays of a page: one node for each id, at the place of the first and with the data of the
last; the edges between nodes; the sections that have a node; the sticky notes that have text. -/
structure Keeps (page kept : Page) : Prop where
  id : kept.id = page.id
  name : kept.name = page.name
  nodeIds : ∀ id, id ∈ kept.nodeIds ↔ id ∈ page.nodeIds
  order : InOrderOf page.nodeIds kept.nodeIds
  nodes : ∀ node ∈ kept.nodes, ∃ last, IsLast page.nodes last ∧ last.Shows node
  edges : kept.edges =
    page.edges.filter fun edge => edge.source ∈ page.nodeIds ∧ edge.target ∈ page.nodeIds
  sections : ∃ regrouped, List.Forall₂ page.Regroups page.sections regrouped ∧
    kept.sections = regrouped.filter (·.members ≠ [])
  stickies : kept.stickies = page.stickies.filter fun note => Text.isBlankText note.text = false

variable {page kept : Page}

theorem regroups_iff {group regrouped : Section} :
    page.Regroups group regrouped ↔ regrouped = { group with members := page.membersOf group } := by
  have horder : InOrderOf group.members (page.membersOf group) :=
    (inOrderOf_distinct group.members).sublist List.filter_sublist
  constructor
  · intro h
    have hmembers : regrouped.members = page.membersOf group :=
      h.order.eq_of_mem_iff horder fun id => (h.members id).trans mem_membersOf.symm
    obtain ⟨id, label, members⟩ := regrouped
    obtain rfl := h.id
    obtain rfl := h.label
    obtain rfl := hmembers
    rfl
  · rintro rfl
    exact ⟨rfl, rfl, fun _ => mem_membersOf, horder⟩

theorem forall₂_regroups_iff {groups regrouped : List Section} :
    List.Forall₂ page.Regroups groups regrouped ↔
      regrouped = groups.map fun group => { group with members := page.membersOf group } := by
  induction groups generalizing regrouped with
  | nil => exact List.forall₂_nil_left_iff
  | cons group rest ih =>
    simp only [List.forall₂_cons_left_iff, ih, regroups_iff, List.map_cons]
    constructor
    · rintro ⟨_, _, rfl, rfl, rfl⟩
      rfl
    · rintro rfl
      exact ⟨_, _, rfl, rfl, rfl⟩

theorem eq_prunedSections_iff {sections : List Section} :
    sections = page.prunedSections ↔ ∃ regrouped,
      List.Forall₂ page.Regroups page.sections regrouped ∧
        sections = regrouped.filter (·.members ≠ []) := by
  have hnonempty : ∀ groups : List Section,
      groups.filter (fun group => !group.members.isEmpty) = groups.filter (·.members ≠ []) :=
    fun groups => List.filter_congr fun group _ => by rw [Bool.eq_iff_iff]; simp
  simp only [forall₂_regroups_iff, exists_eq_left, prunedSections, hnonempty]

theorem keeps_prune (page : Page) : page.Keeps page.prune where
  id := rfl
  name := rfl
  nodeIds _ := mem_nodeIds_prune
  order := by
    rw [nodeIds_prune]
    exact inOrderOf_distinct _
  nodes node hn := by
    have hmem : node ∈ (lastNodes page.nodes).map Node.labelled := prunedNodes_eq page ▸ hn
    obtain ⟨last, hlast, rfl⟩ := List.mem_map.mp hmem
    obtain ⟨id, -, hfound⟩ := List.mem_filterMap.mp hlast
    obtain rfl := (lastNode?_some hfound).2
    exact ⟨last, isLast_iff.mpr hfound, Node.shows_iff.mpr rfl⟩
  edges := List.filter_congr fun edge _ => by simp [hasNode]
  sections := eq_prunedSections_iff.mp rfl
  stickies := List.filter_congr fun note _ => by simp

namespace Keeps

/-- A node that stays is found by its id. -/
theorem node_eq (h : page.Keeps kept) {node : Node} (hn : node ∈ kept.nodes) :
    (lastNode? page.nodes node.id).map Node.labelled = some node := by
  obtain ⟨last, hlast, hshown⟩ := h.nodes node hn
  obtain rfl := Node.shows_iff.mp hshown
  rw [last.labelled_id, isLast_iff.mp hlast, Option.map_some]

theorem nodes_eq (h : page.Keeps kept) : kept.nodes = page.prunedNodes := by
  have hids : kept.nodeIds = distinct page.nodeIds :=
    h.order.eq_of_mem_iff (inOrderOf_distinct _) fun id => (h.nodeIds id).trans mem_distinct.symm
  calc kept.nodes
      = kept.nodes.filterMap fun node => (lastNode? page.nodes node.id).map Node.labelled := by
        rw [List.filterMap_congr fun node hn => h.node_eq hn, List.filterMap_some]
    _ = kept.nodeIds.filterMap fun id => (lastNode? page.nodes id).map Node.labelled := by
        rw [Page.nodeIds, List.filterMap_map]
        rfl
    _ = page.prunedNodes := by
        rw [hids, prunedNodes_eq, lastNodes, List.map_filterMap]
        rfl

theorem eq_prune (h : page.Keeps kept) : kept = page.prune := by
  have hedges : kept.edges = page.prunedEdges := h.edges.trans page.keeps_prune.edges.symm
  have hstickies : kept.stickies = page.prunedStickies :=
    h.stickies.trans page.keeps_prune.stickies.symm
  have hsections := eq_prunedSections_iff.mpr h.sections
  have hnodes := h.nodes_eq
  have hid := h.id
  have hname := h.name
  cases kept
  simp only at hid hname hnodes hedges hsections hstickies
  rw [prune, hid, hname, hnodes, hedges, hsections, hstickies]

end Keeps

/-- Pruning keeps exactly what stays of a page; a second time it changes nothing, nor does it change
anything if and only if the page is canonical. -/
theorem prune_closure (page : Page) :
    (∀ kept, kept = page.prune ↔ page.Keeps kept) ∧ page.prune.prune = page.prune ∧
      (page.prune = page ↔ page.Canonical) := by
  refine ⟨fun kept => ⟨?_, Keeps.eq_prune⟩, page.canonical_prune.prune_eq, ?_, Canonical.prune_eq⟩
  · rintro rfl
    exact page.keeps_prune
  · intro h
    exact h ▸ page.canonical_prune

end Page

end FlowBoard
