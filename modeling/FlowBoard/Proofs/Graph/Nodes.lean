import FlowBoard.Graph.Basic
import FlowBoard.Proofs.Keyed

/-!
# Nodes by id

A list of nodes may hold several with one id. `lastNodes` keeps the last of them, at the place of
the first; this is what putting the nodes under their ids one after the other gives.
-/

namespace FlowBoard

theorem Page.hasNode_iff {page : Page} {id : String} :
    page.hasNode id = true ↔ id ∈ page.nodeIds := by
  simp [Page.hasNode]

/-- The last of the nodes with an id. -/
def lastNode? (nodes : List Node) (id : String) : Option Node := nodes.reverse.find? (·.id = id)

theorem lastNode?_some {nodes : List Node} {id : String} {node : Node}
    (h : lastNode? nodes id = some node) : node ∈ nodes ∧ node.id = id :=
  ⟨List.mem_reverse.mp (List.mem_of_find?_eq_some h), by simpa using List.find?_some h⟩

theorem exists_lastNode? {nodes : List Node} {id : String} (h : id ∈ nodes.map Node.id) :
    ∃ node, lastNode? nodes id = some node := by
  obtain ⟨node, hn, rfl⟩ := List.mem_map.mp h
  apply Option.isSome_iff_exists.mp
  rw [lastNode?, List.find?_isSome]
  exact ⟨node, List.mem_reverse.mpr hn, by simp⟩

/-- The nodes of a list, one for each id: the last, at the place of the first. -/
def lastNodes (nodes : List Node) : List Node :=
  (distinct (nodes.map Node.id)).filterMap (lastNode? nodes)

theorem map_id_lastNodes (nodes : List Node) :
    (lastNodes nodes).map Node.id = distinct (nodes.map Node.id) := by
  have hid : ∀ id ∈ distinct (nodes.map Node.id), (lastNode? nodes id).map Node.id = some id := by
    intro id hmem
    obtain ⟨node, hn⟩ := exists_lastNode? (mem_distinct.mp hmem)
    rw [hn, Option.map_some, (lastNode?_some hn).2]
  rw [lastNodes, List.map_filterMap, List.filterMap_congr hid, List.filterMap_some]

theorem mem_of_mem_lastNodes {nodes : List Node} {node : Node} (h : node ∈ lastNodes nodes) :
    node ∈ nodes := by
  obtain ⟨id, _, hn⟩ := List.mem_filterMap.mp h
  exact (lastNode?_some hn).1

theorem lastNodes_eq_self {nodes : List Node} (h : (nodes.map Node.id).Nodup) :
    lastNodes nodes = nodes := by
  have hlast : ∀ node ∈ nodes, lastNode? nodes node.id = some node := by
    intro node hn
    obtain ⟨last, hl⟩ := exists_lastNode? (List.mem_map_of_mem hn)
    obtain ⟨hmem, hid⟩ := lastNode?_some hl
    rw [hl, List.inj_on_of_nodup_map h hmem hn hid]
  rw [lastNodes, distinct_of_nodup h, List.filterMap_map]
  exact (List.filterMap_congr hlast).trans List.filterMap_some

/-- A change of nodes that leaves their ids alone may come before or after. -/
theorem lastNodes_map {change : Node → Node} (h : ∀ node, (change node).id = node.id)
    (nodes : List Node) : lastNodes (nodes.map change) = (lastNodes nodes).map change := by
  have hids : (nodes.map change).map Node.id = nodes.map Node.id := by
    rw [List.map_map]
    exact List.map_congr_left fun node _ => h node
  rw [lastNodes, hids, lastNodes, List.map_filterMap]
  refine List.filterMap_congr fun id _ => ?_
  rw [lastNode?, ← List.map_reverse, List.find?_map, lastNode?]
  simp only [Function.comp_def, h]

theorem values_ofList_nodes (nodes : List Node) :
    (Keyed.ofList (nodes.map fun node => (node.id, node))).values = lastNodes nodes := by
  rw [Keyed.values_ofList Node.id fun node => node, lastNodes]
  simp only [Option.map_id']
  rfl

end FlowBoard
