import FlowBoard.Proofs.Keyed
import FlowBoard.Tree.Pages

/-!
# The walk as a list of visits

`Tree.visits` lists the trees that a walk meets, in pre-order, each with the id of the innermost
section around it. Gathering a tree takes these visits one after the other. `Summary` says what is
gathered from any list of visits, without recursion on a tree: `summary_concat` is one visit and
`summary_gather` a whole walk.
-/

namespace FlowBoard

/-- A tree as the walk meets it, inside the section with that id, if any. -/
structure Visit where
  tree : Tree
  sectionId : Option String

namespace Tree

mutual

/-- The visits of a walk in pre-order. A section stands inside itself. -/
def visits (sectionId : Option String) : Tree → List Visit
  | .node item children =>
    let inner := if item.kind = Item.sectionKind then some item.id else sectionId
    ⟨.node item children, inner⟩ ::
      match children with
      | none => []
      | some trees => visitsAll inner trees

def visitsAll (sectionId : Option String) : List Tree → List Visit
  | [] => []
  | tree :: rest => visits sectionId tree ++ visitsAll sectionId rest

end

end Tree

namespace Visit

def kind (v : Visit) : String := v.tree.item.kind

/-- The id of the section that the visit opens. -/
def opened? (v : Visit) : Option String :=
  if v.kind = Item.sectionKind then some v.tree.item.id else none

def node? (v : Visit) : Option Node :=
  if v.kind = Item.shapeKind then some (v.tree.shapeNode v.sectionId) else none

def edge? (v : Visit) : Option Edge :=
  if v.kind = Item.connectorKind then v.tree.connectorEdge? else none

def note? (v : Visit) : Option StickyNote :=
  if v.kind = Item.stickyKind then v.tree.stickyNote? else none

/-- The ids of the sections that are opened, in order. -/
def openedIds (vs : List Visit) : List String := vs.filterMap opened?

/-- The nodes of the shapes, in order. -/
def nodes (vs : List Visit) : List Node := vs.filterMap node?

/-- The visits before the last opening of a section, that opening, and the visits after it. -/
def lastOpening? (id : String) : List Visit → Option (List Visit × Visit × List Visit)
  | [] => none
  | v :: rest =>
    match lastOpening? id rest with
    | some (before, opening, after) => some (v :: before, opening, after)
    | none => if v.opened? = some id then some ([], v, rest) else none

/-- The ids of the shapes in a section; one with an empty id gathers none. -/
def membersIn (id : String) (vs : List Visit) : List String :=
  if id.isEmpty then [] else ((nodes vs).filter (·.sectionId = some id)).map Node.id

/-- A section has the label of its last opening, and the shapes after it as members. The number in
a label counts the sections that were open to that point. -/
def sectionAt? (vs : List Visit) (id : String) : Option Section :=
  (lastOpening? id vs).map fun (before, opening, after) =>
    { id
      label := Text.orElse opening.tree.item.cleanName
        ("Section " ++ toString ((distinct (openedIds before)).length + 1))
      members := membersIn id after }

end Visit

namespace Gathered

/-- What a visit adds. -/
def visit (out : Gathered) (v : Visit) : Gathered :=
  let out := if v.kind = Item.sectionKind then out.openSection v.tree.item else out
  out.addItem v.sectionId v.tree

end Gathered

namespace Tree

mutual

theorem gather_eq_foldl (sectionId : Option String) (out : Gathered) :
    (tree : Tree) → gather sectionId out tree = (visits sectionId tree).foldl Gathered.visit out
  | .node item none => by
    rw [gather, visits, List.foldl_cons, List.foldl_nil]
    rfl
  | .node item (some trees) => by
    rw [gather, visits, List.foldl_cons]
    exact gatherAll_eq_foldl _ _ trees

theorem gatherAll_eq_foldl (sectionId : Option String) (out : Gathered) :
    (trees : List Tree) →
      gatherAll sectionId out trees = (visitsAll sectionId trees).foldl Gathered.visit out
  | [] => rfl
  | tree :: rest => by
    rw [gatherAll, visitsAll, List.foldl_append, gather_eq_foldl sectionId out tree]
    exact gatherAll_eq_foldl _ _ rest

end

end Tree

/-! ## One visit -/

section Kinds

variable (out : Gathered) {v : Visit}

theorem visit_of_section (h : v.kind = Item.sectionKind) :
    out.visit v = out.openSection v.tree.item := by
  have hkind : v.tree.item.kind = Item.sectionKind := h
  simp [Gathered.visit, Gathered.addItem, h, hkind, Item.sectionKind, Item.shapeKind,
    Item.connectorKind, Item.stickyKind]

theorem visit_of_shape (h : v.kind = Item.shapeKind) :
    out.visit v = out.addShape v.sectionId (v.tree.shapeNode v.sectionId) := by
  have hkind : v.tree.item.kind = Item.shapeKind := h
  simp [Gathered.visit, Gathered.addItem, h, hkind, Item.sectionKind, Item.shapeKind]

theorem visit_of_other (hs : v.kind ≠ Item.sectionKind) (hk : v.kind ≠ Item.shapeKind) :
    out.visit v = { out with
      edges := out.edges ++ v.edge?.toList
      stickies := out.stickies ++ v.note?.toList } := by
  have hitem : v.tree.item.kind = v.kind := rfl
  rw [Gathered.visit, if_neg hs, Gathered.addItem, hitem, if_neg hk, Visit.edge?, Visit.note?]
  by_cases hc : v.kind = Item.connectorKind
  · have hn : v.kind ≠ Item.stickyKind := by
      rw [hc]
      decide
    rw [if_pos hc, if_pos hc, if_neg hn, Option.toList_none, List.append_nil]
  · rw [if_neg hc, if_neg hc, Option.toList_none, List.append_nil]
    by_cases hn : v.kind = Item.stickyKind
    · rw [if_pos hn, if_pos hn]
    · rw [if_neg hn, if_neg hn, Option.toList_none, List.append_nil]

end Kinds

theorem filterMap_singleton {α β : Type} (f : α → Option β) (a : α) :
    [a].filterMap f = (f a).toList := by
  cases h : f a <;> simp [h]

namespace Visit

/-- A visit is of one kind at most. -/
theorem of_section {v : Visit} (h : v.kind = Item.sectionKind) :
    v.opened? = some v.tree.item.id ∧ v.node? = none ∧ v.edge? = none ∧ v.note? = none := by
  simp [opened?, node?, edge?, note?, h, Item.sectionKind, Item.shapeKind, Item.connectorKind,
    Item.stickyKind]

theorem of_shape {v : Visit} (h : v.kind = Item.shapeKind) :
    v.opened? = none ∧ v.node? = some (v.tree.shapeNode v.sectionId) ∧ v.edge? = none ∧
      v.note? = none := by
  simp [opened?, node?, edge?, note?, h, Item.sectionKind, Item.shapeKind, Item.connectorKind,
    Item.stickyKind]

theorem of_other {v : Visit} (hs : v.kind ≠ Item.sectionKind) (hk : v.kind ≠ Item.shapeKind) :
    v.opened? = none ∧ v.node? = none :=
  ⟨if_neg hs, if_neg hk⟩

theorem lastOpening?_concat (id : String) (vs : List Visit) (v : Visit) :
    lastOpening? id (vs ++ [v]) =
      if v.opened? = some id then some (vs, v, [])
      else (lastOpening? id vs).map fun (before, opening, after) =>
        (before, opening, after ++ [v]) := by
  induction vs with
  | nil => simp [lastOpening?]
  | cons u rest ih =>
    rw [List.cons_append, lastOpening?, ih, lastOpening?]
    by_cases hv : v.opened? = some id
    · simp [hv]
    · rw [if_neg hv, if_neg hv]
      cases lastOpening? id rest with
      | some split => rfl
      | none => by_cases hu : u.opened? = some id <;> simp [hu]

/-- The visits are split at the last opening. -/
theorem lastOpening?_eq_some_iff {id : String} {vs before after : List Visit} {opening : Visit} :
    lastOpening? id vs = some (before, opening, after) ↔
      vs = before ++ opening :: after ∧ opening.opened? = some id ∧ id ∉ openedIds after := by
  constructor
  · intro h
    induction vs using List.reverseRecOn generalizing after with
    | nil => simp [lastOpening?] at h
    | append_singleton vs v ih =>
      rw [lastOpening?_concat] at h
      split_ifs at h with hv
      · cases h
        exact ⟨rfl, hv, by simp [openedIds]⟩
      · obtain ⟨⟨b, o, a⟩, hsplit, he⟩ := Option.map_eq_some_iff.mp h
        cases he
        obtain ⟨rfl, ho, ha⟩ := ih hsplit
        refine ⟨by simp, ho, ?_⟩
        have hid : id ∉ openedIds [v] := by
          rw [openedIds, filterMap_singleton, Option.mem_toList]
          exact hv
        simpa [openedIds, List.filterMap_append] using ⟨by simpa [openedIds] using ha, hv⟩
  · rintro ⟨rfl, ho, ha⟩
    induction after using List.reverseRecOn with
    | nil => rw [lastOpening?_concat, if_pos ho]
    | append_singleton after v ih =>
      simp only [openedIds, List.filterMap_append, List.mem_append, not_or] at ha
      have hv : v.opened? ≠ some id := fun h => ha.2 (by simp [h])
      rw [← List.cons_append, ← List.append_assoc, lastOpening?_concat, if_neg hv, ih ha.1]
      rfl

theorem membersIn_append (id : String) (vs ws : List Visit) :
    membersIn id (vs ++ ws) = membersIn id vs ++ membersIn id ws := by
  unfold membersIn nodes
  split_ifs
  · rfl
  · simp only [List.filterMap_append, List.filter_append, List.map_append]

theorem membersIn_shape {id : String} {v : Visit}
    (h : v.node? = some (v.tree.shapeNode v.sectionId)) :
    membersIn id [v] =
      if v.sectionId = some id ∧ id.isEmpty = false then [v.tree.item.id] else [] := by
  have hnodes : nodes [v] = [v.tree.shapeNode v.sectionId] := by simp [nodes, h]
  rw [membersIn, hnodes]
  by_cases he : id.isEmpty = true
  · simp [he]
  · by_cases hid : v.sectionId = some id <;> simp [he, hid, Tree.shapeNode]

theorem sectionAt?_concat_opening {v : Visit} {id : String} (h : v.opened? = some id)
    (vs : List Visit) : sectionAt? (vs ++ [v]) id =
      some {
        id
        label := Text.orElse v.tree.item.cleanName
          ("Section " ++ toString ((distinct (openedIds vs)).length + 1)) } := by
  rw [sectionAt?, lastOpening?_concat, if_pos h, Option.map_some]
  simp [membersIn, nodes]

/-- A visit that does not open a section may only add a member to it. -/
theorem sectionAt?_concat {v : Visit} {id : String} (h : v.opened? ≠ some id) (vs : List Visit) :
    sectionAt? (vs ++ [v]) id =
      (sectionAt? vs id).map fun g => { g with members := g.members ++ membersIn id [v] } := by
  rw [sectionAt?, lastOpening?_concat, if_neg h, sectionAt?, Option.map_map, Option.map_map]
  simp only [Function.comp_def, membersIn_append]

/-- A visit that does not open a section and is no shape leaves it as it is. -/
theorem sectionAt?_concat_of_node?_eq_none {v : Visit} {id : String} (h : v.opened? ≠ some id)
    (hnode : v.node? = none) (vs : List Visit) : sectionAt? (vs ++ [v]) id = sectionAt? vs id := by
  have hmembers : membersIn id [v] = [] := by simp [membersIn, nodes, hnode]
  rw [sectionAt?_concat h, hmembers]
  simp

end Visit

/-! ## A whole walk -/

/-- What is gathered from a list of visits. -/
structure Summary (vs : List Visit) (out : Gathered) : Prop where
  nodes : out.nodes = Keyed.ofList ((Visit.nodes vs).map fun node => (node.id, node))
  edges : out.edges = vs.filterMap Visit.edge?
  stickies : out.stickies = vs.filterMap Visit.note?
  keys_sections : out.sections.keys = distinct (Visit.openedIds vs)
  find?_sections : ∀ id, Keyed.find? id out.sections = Visit.sectionAt? vs id

namespace Summary

variable {vs : List Visit} {out : Gathered} {v : Visit}

theorem nil : Summary [] {} where
  nodes := rfl
  edges := rfl
  stickies := rfl
  keys_sections := rfl
  find?_sections _ := rfl

theorem length_sections (h : Summary vs out) :
    out.sections.length = (distinct (Visit.openedIds vs)).length := by
  rw [← h.keys_sections, Keyed.keys, List.length_map]

theorem concat_section (h : Summary vs out) (hv : v.kind = Item.sectionKind) :
    Summary (vs ++ [v]) (out.visit v) := by
  obtain ⟨hopen, hnode, hedge, hnote⟩ := Visit.of_section hv
  rw [visit_of_section out hv]
  constructor
  · simpa [Gathered.openSection, Visit.nodes, hnode] using h.nodes
  · simpa [Gathered.openSection, hedge] using h.edges
  · simpa [Gathered.openSection, hnote] using h.stickies
  · have hids : Visit.openedIds (vs ++ [v]) = Visit.openedIds vs ++ [v.tree.item.id] := by
      simp [Visit.openedIds, hopen]
    simp only [Gathered.openSection, Keyed.keys_put, h.keys_sections, hids, distinct_concat,
      mem_distinct]
  · intro id
    rw [Gathered.openSection, Keyed.find?_put, h.find?_sections, h.length_sections]
    by_cases hid : v.tree.item.id = id
    · subst hid
      rw [if_pos rfl, Visit.sectionAt?_concat_opening hopen]
    · have hother : v.opened? ≠ some id := by simpa [hopen] using hid
      rw [if_neg hid, Visit.sectionAt?_concat_of_node?_eq_none hother hnode]

theorem keys_addShape (out : Gathered) (sectionId : Option String) (node : Node) :
    (out.addShape sectionId node).sections.keys = out.sections.keys := by
  cases sectionId with
  | none => rfl
  | some inner =>
    simp only [Gathered.addShape]
    split_ifs
    · rfl
    · exact Keyed.keys_update _ _ _

/-- A shape joins the section around it, unless the section's id is empty. -/
theorem find?_addShape (out : Gathered) (sectionId : Option String) (node : Node) (id : String) :
    Keyed.find? id (out.addShape sectionId node).sections =
      if sectionId = some id ∧ id.isEmpty = false then
        (Keyed.find? id out.sections).map fun g => { g with members := g.members ++ [node.id] }
      else Keyed.find? id out.sections := by
  cases sectionId with
  | none => simp [Gathered.addShape]
  | some inner =>
    simp only [Gathered.addShape, Option.some.injEq]
    by_cases hid : inner = id
    · subst hid
      by_cases he : inner.isEmpty = true
      · simp [he]
      · simp [he, Keyed.find?_update]
    · split_ifs with he hand
      · exact absurd hand.1 hid
      · rfl
      · exact absurd ‹inner = id ∧ _›.1 hid
      · rw [Keyed.find?_update, if_neg hid]

theorem concat_shape (h : Summary vs out) (hv : v.kind = Item.shapeKind) :
    Summary (vs ++ [v]) (out.visit v) := by
  obtain ⟨hopen, hnode, hedge, hnote⟩ := Visit.of_shape hv
  rw [visit_of_shape out hv]
  constructor
  · simp only [Gathered.addShape, h.nodes, Visit.nodes, List.filterMap_append, List.map_append,
      List.filterMap_cons, List.filterMap_nil, hnode, List.map_cons, List.map_nil,
      Keyed.ofList_concat]
  · simpa [Gathered.addShape, hedge] using h.edges
  · simpa [Gathered.addShape, hnote] using h.stickies
  · have hids : Visit.openedIds (vs ++ [v]) = Visit.openedIds vs := by
      simp [Visit.openedIds, hopen]
    rw [keys_addShape, h.keys_sections, hids]
  · intro id
    rw [find?_addShape, h.find?_sections, Visit.sectionAt?_concat (by simp [hopen]),
      Visit.membersIn_shape hnode]
    split_ifs
    · rfl
    · simp

theorem concat_other (h : Summary vs out) (hs : v.kind ≠ Item.sectionKind)
    (hk : v.kind ≠ Item.shapeKind) : Summary (vs ++ [v]) (out.visit v) := by
  obtain ⟨hopen, hnode⟩ := Visit.of_other hs hk
  rw [visit_of_other out hs hk]
  constructor
  · simpa [Visit.nodes, hnode] using h.nodes
  · rw [h.edges, List.filterMap_append, filterMap_singleton]
  · rw [h.stickies, List.filterMap_append, filterMap_singleton]
  · have hids : Visit.openedIds (vs ++ [v]) = Visit.openedIds vs := by
      simp [Visit.openedIds, hopen]
    rw [h.keys_sections, hids]
  · intro id
    rw [h.find?_sections, Visit.sectionAt?_concat_of_node?_eq_none (by simp [hopen]) hnode]

/-- One visit more. -/
theorem concat (h : Summary vs out) (v : Visit) : Summary (vs ++ [v]) (out.visit v) := by
  by_cases hs : v.kind = Item.sectionKind
  · exact h.concat_section hs
  · by_cases hk : v.kind = Item.shapeKind
    · exact h.concat_shape hk
    · exact h.concat_other hs hk

theorem foldl (vs : List Visit) : Summary vs (vs.foldl Gathered.visit {}) := by
  induction vs using List.reverseRecOn with
  | nil => exact nil
  | append_singleton vs v ih =>
    rw [List.foldl_append]
    exact ih.concat v

/-- What a walk from the root gathers. -/
theorem gather (tree : Tree) : Summary (tree.visits none) (tree.gather none {}) := by
  rw [Tree.gather_eq_foldl]
  exact foldl _

end Summary

end FlowBoard
