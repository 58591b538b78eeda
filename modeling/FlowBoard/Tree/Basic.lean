import FlowBoard.Number.Binary64
import FlowBoard.Text.Blank

/-!
# Drawing trees

A drawing is a tree of items. The kind of an item tells what it is drawn as; text often stands in
items below a shape rather than in the shape. `firstText` finds it by a walk in pre-order.
-/

namespace FlowBoard

/-- The end of a connector, which may be attached to an item. -/
structure Endpoint where
  itemId : Option String
deriving DecidableEq, Repr

structure Box where
  x : Finite
  y : Finite
  width : Finite
  height : Finite
deriving DecidableEq, Repr

structure Item where
  id : String
  kind : String
  name : Option String := none
  characters : Option String := none
  shape : Option String := none
  start : Option Endpoint := none
  finish : Option Endpoint := none
  startCap : Option String := none
  finishCap : Option String := none
  box : Option Box := none
deriving DecidableEq, Repr

/-- An item with the items below it; a leaf may lack the list or have an empty one. -/
inductive Tree
  | node (item : Item) (children : Option (List Tree))
deriving Repr

structure TreeFile where
  root : Tree
  name : Option String := none
deriving Repr

namespace Item

def sectionKind : String := "SECTION"

def shapeKind : String := "SHAPE_WITH_TEXT"

def connectorKind : String := "CONNECTOR"

def stickyKind : String := "STICKY"

def canvasKind : String := "CANVAS"

/-- The clean text of the item itself. -/
def ownText (item : Item) : String := Text.clean (item.characters.getD "")

def cleanName (item : Item) : String := Text.clean (item.name.getD "")

end Item

namespace Tree

def item : Tree → Item
  | .node item _ => item

def children : Tree → List Tree
  | .node _ children => children.getD []

mutual

/-- The first clean text that is not empty, in pre-order; empty if there is none. -/
def firstText : Tree → String
  | .node item none => item.ownText
  | .node item (some children) =>
    if item.ownText.isEmpty then firstTextOf children else item.ownText

def firstTextOf : List Tree → String
  | [] => ""
  | tree :: rest => if tree.firstText.isEmpty then firstTextOf rest else tree.firstText

end

end Tree

end FlowBoard
