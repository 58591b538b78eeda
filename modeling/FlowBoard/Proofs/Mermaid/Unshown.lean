import FlowBoard.Mermaid.Flowchart
import Mathlib.Data.List.Basic

/-!
# What a flowchart does not show

A node's reference to its section is not drawn, for the section lists its members itself, and an
empty label of an edge is drawn like none. So a page has the same flowchart without them.
-/

namespace FlowBoard

/-- The node without its reference to a section. -/
def Node.untagged (node : Node) : Node := { node with sectionId := none }

/-- The edge with no label in the place of an empty one. -/
def Edge.tidied (edge : Edge) : Edge := { edge with label := edge.label.filter (!·.isEmpty) }

namespace Page

def untagged (page : Page) : Page := { page with nodes := page.nodes.map Node.untagged }

def tidied (page : Page) : Page := { page with edges := page.edges.map Edge.tidied }

variable {page other : Page}

/-- The blocks of sections depend on a page through its node ids only. -/
theorem blocksFrom_congr (h : page.nodeIds = other.nodeIds) (placed : List String) (number : Nat)
    (sections : List Section) :
    page.blocksFrom placed number sections = other.blocksFrom placed number sections := by
  induction sections generalizing placed number with
  | nil => rfl
  | cons group rest ih =>
    have hnode : page.hasNode = other.hasNode := by
      funext id
      rw [hasNode, hasNode, h]
    simp only [blocksFrom, hnode, ih]

theorem nodeIds_untagged (page : Page) : page.untagged.nodeIds = page.nodeIds :=
  List.map_map

theorem nodeOf?_untagged (page : Page) (id : String) :
    page.untagged.nodeOf? id = (page.nodeOf? id).map Node.untagged :=
  List.find?_map

theorem nodeLines_untagged (page : Page) (shown : List String) (inside : Bool)
    (ids : List String) :
    page.untagged.nodeLines shown inside ids = page.nodeLines shown inside ids := by
  refine List.filterMap_congr fun id _ => ?_
  rw [nodeOf?_untagged, Option.map_map]
  rfl

theorem blocks_untagged (page : Page) : page.untagged.blocks = page.blocks :=
  blocksFrom_congr page.nodeIds_untagged [] 1 page.sections

theorem lines_untagged (page : Page) (direction : String) :
    page.untagged.lines direction = page.lines direction := by
  have hshown : page.untagged.shownIds = page.shownIds := by
    rw [shownIds, nodeIds_untagged, shownIds]
  have hloose : page.untagged.looseIds = page.looseIds := by
    rw [looseIds, hshown, blocks_untagged, looseIds]
  have hblocks : page.untagged.blockLines page.shownIds = page.blockLines page.shownIds := by
    funext block
    rw [blockLines, nodeLines_untagged, blockLines]
  have hedges : page.untagged.edgeLines page.shownIds = page.edgeLines page.shownIds := by
    simp only [edgeLines, hasNode, nodeIds_untagged]
    rfl
  simp only [lines, hshown, hloose, hblocks, hedges, blocks_untagged, nodeLines_untagged]
  rfl

theorem direction?_untagged (page : Page) (given : Option String) :
    page.untagged.direction? given = page.direction? given := by
  have hplaces : Direction.places page.untagged.nodes = Direction.places page.nodes :=
    List.filterMap_map
  rw [direction?, Direction.detect?, hplaces]
  rfl

/-- The references of nodes to sections are not shown. -/
theorem mermaid?_untagged (page : Page) (given : Option String) :
    page.untagged.mermaid? given = page.mermaid? given := by
  have hflowchart : page.untagged.flowchart = page.flowchart := by
    funext direction
    rw [flowchart, lines_untagged, flowchart]
  rw [mermaid?, direction?_untagged, hflowchart, mermaid?]

theorem bind_shownText?_tidied (edge : Edge) :
    edge.tidied.label.bind shownText? = edge.label.bind shownText? := by
  cases hlabel : edge.label with
  | none => simp [Edge.tidied, hlabel]
  | some label =>
    by_cases hempty : label = ""
    · subst hempty
      simp [Edge.tidied, hlabel]
      decide
    · have hkept : edge.tidied.label = some label := by
        rw [Edge.tidied, hlabel, Option.filter_some, if_pos (by simpa using hempty)]
      rw [hkept]

theorem edgeLines_tidied (page : Page) (shown : List String) :
    page.tidied.edgeLines shown = page.edgeLines shown := by
  rw [edgeLines, tidied, List.filter_map, List.map_map]
  refine List.map_congr_left fun edge _ => ?_
  simp only [Function.comp_apply, bind_shownText?_tidied]
  rfl

/-- An empty label is shown like none. -/
theorem mermaid?_tidied (page : Page) (given : Option String) :
    page.tidied.mermaid? given = page.mermaid? given := by
  have hids : page.tidied.nodeIds = page.nodeIds := rfl
  have hblocks : page.tidied.blocks = page.blocks := blocksFrom_congr hids [] 1 page.sections
  have hloose : page.tidied.looseIds = page.looseIds := by
    rw [looseIds, hblocks]
    rfl
  have hlines : page.tidied.lines = page.lines := by
    funext direction
    rw [lines, hblocks, hloose, edgeLines_tidied]
    rfl
  rw [mermaid?, mermaid?]
  refine congrArg (Option.map · _) (funext fun direction => ?_)
  rw [flowchart, hlines, flowchart]

end Page

end FlowBoard
