import FlowBoard.Graph.Basic
import FlowBoard.Keyed
import FlowBoard.Text.Blank

/-!
# Pruning

Every way of ingestion ends with the same drops. Of the nodes with one id the last stays, at the
place of the first, and a blank label is replaced by the id; an edge stays if both its ends are
nodes; a section keeps its members that are nodes, each once, and goes if none is left; a sticky
note stays if it has text. `Canonical` says that none of this is left to do.
-/

namespace FlowBoard

namespace Node

/-- A blank label is replaced by the word `Node` and the id. -/
def labelled (node : Node) : Node :=
  if Text.isBlankText node.label then { node with label := "Node " ++ node.id } else node

theorem labelled_id (node : Node) : node.labelled.id = node.id := by
  unfold labelled; split <;> rfl

end Node

namespace Page

def prunedNodes (page : Page) : List Node :=
  Keyed.values (Keyed.ofList (page.nodes.map fun node => (node.id, node.labelled)))

def prunedEdges (page : Page) : List Edge :=
  page.edges.filter fun edge => page.hasNode edge.source && page.hasNode edge.target

/-- The members of a section that are nodes of the page, each once. -/
def membersOf (page : Page) (group : Section) : List String :=
  (distinct group.members).filter page.hasNode

def prunedSections (page : Page) : List Section :=
  (page.sections.map fun group => { group with members := page.membersOf group }).filter
    fun group => !group.members.isEmpty

def prunedStickies (page : Page) : List StickyNote :=
  page.stickies.filter fun note => !Text.isBlankText note.text

def prune (page : Page) : Page :=
  { page with
    nodes := page.prunedNodes
    edges := page.prunedEdges
    sections := page.prunedSections
    stickies := page.prunedStickies }

/-- Pruning has nothing left to do. -/
structure Canonical (page : Page) : Prop where
  nodup_nodeIds : page.nodeIds.Nodup
  labelled : ∀ node ∈ page.nodes, Text.isBlankText node.label = false
  resolved : ∀ edge ∈ page.edges, edge.source ∈ page.nodeIds ∧ edge.target ∈ page.nodeIds
  grouped : ∀ group ∈ page.sections,
    group.members ≠ [] ∧ group.members.Nodup ∧ ∀ id ∈ group.members, id ∈ page.nodeIds
  noted : ∀ note ∈ page.stickies, Text.isBlankText note.text = false

end Page

end FlowBoard
