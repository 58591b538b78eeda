import FlowBoard.Tree.Basic
import FlowBoard.Wire.Decoder

/-!
# Tree files

The tree form of a document: a name and the root of a drawing tree. Only the fields that matter
for a diagram are read. Items may be nested to a depth of `maxDepth`.
-/

namespace FlowBoard

namespace Wire

namespace FieldName

def id : FieldName := .word "id"

def type : FieldName := .word "type"

def name : FieldName := .word "name"

def characters : FieldName := .word "characters"

def itemShape : FieldName := ⟨"shapeType", "shape_type"⟩

def connectorStart : FieldName := ⟨"connectorStart", "connector_start"⟩

def connectorEnd : FieldName := ⟨"connectorEnd", "connector_end"⟩

def connectorStartCap : FieldName := ⟨"connectorStartStrokeCap", "connector_start_stroke_cap"⟩

def connectorEndCap : FieldName := ⟨"connectorEndStrokeCap", "connector_end_stroke_cap"⟩

def boundingBox : FieldName := ⟨"absoluteBoundingBox", "absolute_bounding_box"⟩

def endpointNodeId : FieldName := ⟨"endpointNodeId", "endpoint_node_id"⟩

def children : FieldName := .word "children"

def document : FieldName := .word "document"

def boxX : FieldName := .word "x"

def boxY : FieldName := .word "y"

def width : FieldName := .word "width"

def height : FieldName := .word "height"

end FieldName

open Decoder

def endpoint : Decoder Endpoint := fun v => do
  let fields ← members "Endpoint" v
  return { itemId := ← optional .endpointNodeId text fields }

def boundingBox : Decoder Box := fun v => do
  let fields ← members "BoundingBox" v
  return {
    x := ← required .boxX number fields
    y := ← required .boxY number fields
    width := ← required .width number fields
    height := ← required .height number fields }

/-- The fields of an item but its children. -/
def itemFields (fields : Json.Fields) : Except Violation Item := do
  return {
    id := ← required .id text fields
    kind := ← required .type text fields
    name := ← optional .name text fields
    characters := ← optional .characters text fields
    shape := ← optional .itemShape text fields
    start := ← optional .connectorStart endpoint fields
    finish := ← optional .connectorEnd endpoint fields
    startCap := ← optional .connectorStartCap text fields
    finishCap := ← optional .connectorEndCap text fields
    box := ← optional .boundingBox boundingBox fields }

/-- How many items deep a tree may be. -/
def maxDepth : Nat := 254

/-- A tree with at most `depth` levels. -/
def tree : Nat → Decoder Tree
  | 0, _ => .error (.here .tooDeep)
  | depth + 1, v => do
    let fields ← members "TreeNode" v
    let item ← itemFields fields
    let children ← optional .children (list (tree depth)) fields
    return .node item children

end Wire

namespace TreeFile

open Wire Decoder in
def ofJson : Decoder TreeFile := fun v => do
  let fields ← members "TreeFile" v
  return {
    root := ← required .document (tree maxDepth) fields
    name := ← optional .name Decoder.text fields }

end TreeFile

/-! ## Writing -/

def Endpoint.toJson (e : Endpoint) : Json := .obj [("endpointNodeId", .ofString? e.itemId)]

def Finite.toJson (x : Finite) : Json := .num (.binary (.finite x))

def Box.toJson (b : Box) : Json :=
  .obj [("x", b.x.toJson), ("y", b.y.toJson), ("width", b.width.toJson),
    ("height", b.height.toJson)]

/-- A value or null. -/
def Json.ofOption (f : α → Json) : Option α → Json
  | some a => f a
  | none => .null

def Item.fields (item : Item) : List (String × Json) :=
  [("id", .str item.id), ("type", .str item.kind), ("name", .ofString? item.name),
    ("characters", .ofString? item.characters), ("shapeType", .ofString? item.shape),
    ("connectorStart", .ofOption Endpoint.toJson item.start),
    ("connectorEnd", .ofOption Endpoint.toJson item.finish),
    ("connectorStartStrokeCap", .ofString? item.startCap),
    ("connectorEndStrokeCap", .ofString? item.finishCap),
    ("absoluteBoundingBox", .ofOption Box.toJson item.box)]

namespace Tree

mutual

def toJson : Tree → Json
  | .node item none => .obj (item.fields ++ [("children", .null)])
  | .node item (some children) => .obj (item.fields ++ [("children", .arr (listToJson children))])

def listToJson : List Tree → List Json
  | [] => []
  | tree :: rest => toJson tree :: listToJson rest

end

end Tree

def TreeFile.toJson (file : TreeFile) : Json :=
  .obj [("document", file.root.toJson), ("name", .ofString? file.name)]

end FlowBoard
