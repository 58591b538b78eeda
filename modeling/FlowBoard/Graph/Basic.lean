import FlowBoard.Number.Basic

/-!
# Page graphs

A document is a list of pages; a page holds the nodes, edges, sections and sticky notes of one
drawing. Coordinates are whole or binary numbers as they came. The kind of an edge is a word:
`EdgeKind` lists those that ingestion gives, and any other word is drawn as an arrow.
-/

namespace FlowBoard

structure Node where
  id : String
  label : String
  shape : Option String := none
  x : Option Number := none
  y : Option Number := none
  sectionId : Option String := none
deriving DecidableEq, Repr

inductive EdgeKind
  | arrow
  | line
  | bidirectional
deriving DecidableEq, Repr

namespace EdgeKind

def name : EdgeKind → String
  | .arrow => "arrow"
  | .line => "line"
  | .bidirectional => "bidirectional"

def all : List EdgeKind := [.arrow, .line, .bidirectional]

def ofName? (name : String) : Option EdgeKind := all.find? (·.name == name)

end EdgeKind

structure Edge where
  source : String
  target : String
  label : Option String := none
  kind : String := EdgeKind.arrow.name
deriving DecidableEq, Repr

/-- A titled group of nodes, which it lists by id. -/
structure Section where
  id : String
  label : String
  members : List String := []
deriving DecidableEq, Repr

structure StickyNote where
  id : String
  text : String
deriving DecidableEq, Repr

structure Page where
  id : String
  name : String
  nodes : List Node := []
  edges : List Edge := []
  sections : List Section := []
  stickies : List StickyNote := []
deriving DecidableEq, Repr

namespace Page

def nodeIds (page : Page) : List String := page.nodes.map Node.id

def hasNode (page : Page) (id : String) : Bool := page.nodeIds.contains id

end Page

/-- The wire form that a document came in. -/
inductive WireForm
  | tree
  | structured
deriving DecidableEq, Repr

def WireForm.name : WireForm → String
  | .tree => "tree"
  | .structured => "structured"

structure Document where
  sourceKind : String
  fileKey : String
  fileName : Option String := none
  pages : List Page := []
deriving DecidableEq, Repr

end FlowBoard
