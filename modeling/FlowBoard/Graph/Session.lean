import FlowBoard.Connector
import FlowBoard.Graph.Prune
import FlowBoard.Graph.Stored

/-!
# Editing a page

A page is built up step by step. Records are appended without a check; removing a node leaves the
edges and sections that mention it, which pruning drops later.
-/

namespace FlowBoard

inductive Edit
  | addNode (node : Node)
  | addEdge (edge : Edge)
  | addSection (group : Section)
  | addSticky (note : StickyNote)
  | connect (first last : String) (firstCap lastCap label : Option String)
  | dropNode (id : String)
  | prune
  | reload

def Page.edit (page : Page) : Edit → Page
  | .addNode node => { page with nodes := page.nodes ++ [node] }
  | .addEdge edge => { page with edges := page.edges ++ [edge] }
  | .addSection group => { page with sections := page.sections ++ [group] }
  | .addSticky note => { page with stickies := page.stickies ++ [note] }
  | .connect first last firstCap lastCap label =>
    { page with edges := page.edges ++ [Connector.edge first last firstCap lastCap label] }
  | .dropNode id => { page with nodes := page.nodes.filter (·.id != id) }
  | .prune => page.prune
  | .reload => (Page.ofJson? page.toJson).getD page

/-- How many nodes, edges, sections and sticky notes there are. -/
def Page.sizes (page : Page) : List Nat :=
  [page.nodes.length, page.edges.length, page.sections.length, page.stickies.length]

end FlowBoard
