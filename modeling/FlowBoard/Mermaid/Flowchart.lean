import FlowBoard.Keyed
import FlowBoard.Mermaid.Direction
import FlowBoard.Mermaid.Line

/-!
# Flowcharts

The flowchart of a page lists its notes, then a block for every section that shows a node not
shown by an earlier one, then the nodes outside all blocks, and last the edges between nodes. Of
nodes with one id the first is shown, and its rank counts the distinct ids up to it.
-/

namespace FlowBoard

/-- The text, unless nothing is left of it. -/
def shownText? (s : String) : Option String :=
  let safe := Mermaid.sanitize s
  if safe.isEmpty then none else some safe

/-- The label of a node is its own, or else its id, or else its name in the flowchart. -/
def Node.shownLabel (node : Node) (rank : Nat) : String :=
  (shownText? node.label).getD ((shownText? node.id).getD (Mermaid.nodeName rank))

def Node.line (node : Node) (inside : Bool) (rank : Nat) : Mermaid.Line :=
  .node inside rank (Mermaid.brackets node.shape) (node.shownLabel rank)

/-- A section as it is drawn: its number, its title and the members that it shows. -/
structure Block where
  number : Nat
  title : String
  members : List String
deriving DecidableEq, Repr

namespace Page

/-- The distinct node ids in order of first occurrence. -/
def shownIds (page : Page) : List String := distinct page.nodeIds

/-- The place of an id in a list, from one on; zero when it is not there. -/
def rankIn (ids : List String) (id : String) : Nat :=
  match ids.idxOf? id with
  | some i => i + 1
  | none => 0

/-- The node that an id shows. -/
def nodeOf? (page : Page) (id : String) : Option Node := page.nodes.find? (·.id == id)

/-- The blocks of sections, where `placed` are the ids in earlier blocks. -/
def blocksFrom (page : Page) (placed : List String) (number : Nat) : List Section → List Block
  | [] => []
  | group :: rest =>
    let members := (distinct group.members).filter fun id =>
      page.hasNode id && !placed.contains id
    if members.isEmpty then page.blocksFrom placed (number + 1) rest
    else
      { number
        title := (shownText? group.label).getD ("Section " ++ toString number)
        members } :: page.blocksFrom (placed ++ members) (number + 1) rest

def blocks (page : Page) : List Block := page.blocksFrom [] 1 page.sections

/-- The ids outside all blocks. -/
def looseIds (page : Page) : List String :=
  let placed := page.blocks.flatMap Block.members
  page.shownIds.filter (!placed.contains ·)

/-- The lines of the nodes that `ids` show, each under its rank among the ids `shown`. -/
def nodeLines (page : Page) (shown : List String) (inside : Bool) (ids : List String) :
    List Mermaid.Line :=
  ids.filterMap fun id => (page.nodeOf? id).map (·.line inside (rankIn shown id))

def blockLines (page : Page) (shown : List String) (block : Block) : List Mermaid.Line :=
  .opening block.number block.title :: (page.nodeLines shown true block.members ++ [.closing])

def noteLines (page : Page) : List Mermaid.Line :=
  page.stickies.filterMap fun note => (shownText? note.text).map .note

def edgeLines (page : Page) (shown : List String) : List Mermaid.Line :=
  (page.edges.filter fun edge => page.hasNode edge.source && page.hasNode edge.target).map
    fun edge => .edge (rankIn shown edge.source) (rankIn shown edge.target)
      (Mermaid.arrowOf edge.kind) (edge.label.bind shownText?)

def lines (page : Page) (direction : String) : List Mermaid.Line :=
  let shown := page.shownIds
  .header direction :: (page.noteLines ++ page.blocks.flatMap (page.blockLines shown) ++
    page.nodeLines shown false page.looseIds ++ page.edgeLines shown)

/-- The flowchart in a direction. -/
def flowchart (page : Page) (direction : String) : String :=
  String.intercalate "\n" ((page.lines direction).map Mermaid.Line.text)

/-- The direction that is given, unless it is empty, or else the one that is detected. -/
def direction? (page : Page) (given : Option String) : Option String :=
  match given.filter (!·.isEmpty) with
  | some word => some word
  | none => (Direction.detect? page.nodes).map Direction.name

/-- The flowchart in the direction given or detected, if there is one. -/
def mermaid? (page : Page) (given : Option String) : Option String :=
  (page.direction? given).map page.flowchart

end Page

end FlowBoard
