import FlowBoard.Connector
import FlowBoard.Graph.Prune
import FlowBoard.Tree.Basic

/-!
# Pages of a drawing tree

A walk in pre-order gathers what is drawn: shapes become nodes, connectors with two attached ends
become edges, sections gather the shapes found below them, and sticky notes keep their text. Every
canvas below the root is a page; a root without one is a page itself.
-/

namespace FlowBoard

/-- What a walk has gathered: nodes and sections by id, edges and notes in order. -/
structure Gathered where
  nodes : Keyed String Node := []
  edges : List Edge := []
  sections : Keyed String Section := []
  stickies : List StickyNote := []

namespace Tree

/-- The label of a shape is the first text in it, or else its name, or else its id. -/
def shapeLabel (tree : Tree) : String :=
  Text.orElse tree.firstText
    (Text.orElse tree.item.cleanName
      ("Node " ++ Text.orElse (Text.clean tree.item.id) "unknown"))

def shapeNode (sectionId : Option String) (tree : Tree) : Node where
  id := tree.item.id
  label := tree.shapeLabel
  shape := tree.item.shape
  x := tree.item.box.map fun box => .binary (.finite box.x)
  y := tree.item.box.map fun box => .binary (.finite box.y)
  sectionId

/-- The id of the item that an end is attached to, unless it is empty. -/
def attached? (endpoint : Option Endpoint) : Option String :=
  (endpoint.bind Endpoint.itemId).filter (!·.isEmpty)

def connectorEdge? (tree : Tree) : Option Edge := do
  let first ← attached? tree.item.start
  let last ← attached? tree.item.finish
  let label := if tree.firstText.isEmpty then none else some tree.firstText
  return Connector.edge first last tree.item.startCap tree.item.finishCap label

def stickyNote? (tree : Tree) : Option StickyNote :=
  let text := Text.orElse tree.firstText tree.item.cleanName
  if text.isEmpty then none else some ⟨tree.item.id, text⟩

end Tree

namespace Gathered

/-- A section starts without members, also when its id was met before. -/
def openSection (out : Gathered) (item : Item) : Gathered :=
  { out with
    sections := Keyed.put item.id
      { id := item.id
        label := Text.orElse item.cleanName ("Section " ++ toString (out.sections.length + 1)) }
      out.sections }

/-- The shape joins the section with that id, if there is one. -/
def addShape (out : Gathered) (sectionId : Option String) (node : Node) : Gathered :=
  { out with
    nodes := Keyed.put node.id node out.nodes
    sections :=
      match sectionId with
      | none => out.sections
      | some id =>
        if id.isEmpty then out.sections
        else Keyed.update id (fun g => { g with members := g.members ++ [node.id] }) out.sections }

/-- Adds what the top of a tree is drawn as, which is not a section. -/
def addItem (out : Gathered) (sectionId : Option String) (tree : Tree) : Gathered :=
  if tree.item.kind = Item.shapeKind then out.addShape sectionId (tree.shapeNode sectionId)
  else if tree.item.kind = Item.connectorKind then
    { out with edges := out.edges ++ tree.connectorEdge?.toList }
  else if tree.item.kind = Item.stickyKind then
    { out with stickies := out.stickies ++ tree.stickyNote?.toList }
  else out

def page (out : Gathered) (id name : String) : Page where
  id
  name
  nodes := Keyed.values out.nodes
  edges := out.edges
  sections := Keyed.values out.sections
  stickies := out.stickies

end Gathered

namespace Tree

mutual

/-- Walks a tree inside the section with that id, if any. -/
def gather (sectionId : Option String) (out : Gathered) : Tree → Gathered
  | .node item children =>
    let inSection := item.kind = Item.sectionKind
    let inner := if inSection then some item.id else sectionId
    let out := if inSection then out.openSection item else out
    let out := out.addItem inner (.node item children)
    match children with
    | none => out
    | some trees => gatherAll inner out trees

def gatherAll (sectionId : Option String) (out : Gathered) : List Tree → Gathered
  | [] => out
  | tree :: rest => gatherAll sectionId (gather sectionId out tree) rest

end

/-- The pruned page of what is drawn in a tree. -/
def page (tree : Tree) (id name : String) : Page := ((tree.gather none {}).page id name).prune

def isCanvas (tree : Tree) : Bool := tree.item.kind == Item.canvasKind

/-- The page of a tree with that number among the pages. -/
def numberedPage (tree : Tree) (number : Nat) : Page :=
  tree.page tree.item.id (Text.orElse tree.item.cleanName ("Page " ++ toString number))

end Tree

namespace TreeFile

def canvases (file : TreeFile) : List Tree := file.root.children.filter Tree.isCanvas

def pages (file : TreeFile) : List Page :=
  if file.canvases.isEmpty then [file.root.numberedPage 1]
  else file.canvases.zipIdx.map fun (tree, i) => tree.numberedPage (i + 1)

end TreeFile

end FlowBoard
