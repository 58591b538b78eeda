import FlowBoard.Wire.Decoder

/-!
# Page lists

The structured form of a document: a list of pages, each with the records of its diagram. The
records are those of the page graph, but coordinates are finite binary numbers and the kind of an
edge is one of three. `PageList.ofJson` reads the form and `PageList.toJson` writes it, with every
field in its place and null where there is no value.
-/

namespace FlowBoard.Wire

structure NodeRecord where
  id : String
  label : String
  shape : Option String := none
  x : Option Finite := none
  y : Option Finite := none
  sectionId : Option String := none
deriving DecidableEq, Repr

structure EdgeRecord where
  source : String
  target : String
  label : Option String := none
  kind : EdgeKind
deriving DecidableEq, Repr

structure PageRecord where
  id : String
  name : String
  nodes : List NodeRecord
  edges : List EdgeRecord
  sections : List Section
  stickies : List StickyNote
deriving DecidableEq, Repr

structure PageList where
  pages : List PageRecord
  fileName : Option String := none
deriving DecidableEq, Repr

/-! ## Names of fields -/

namespace FieldName

def sourceId : FieldName := ⟨"sourceId", "source_id"⟩

def targetId : FieldName := ⟨"targetId", "target_id"⟩

def label : FieldName := .word "label"

def kind : FieldName := .word "kind"

def text : FieldName := .word "text"

def x : FieldName := .word "x"

def y : FieldName := .word "y"

def shapeType : FieldName := ⟨"shapeType", "shape_type"⟩

def sectionId : FieldName := ⟨"sectionId", "section_id"⟩

def nodeIds : FieldName := ⟨"nodeIds", "node_ids"⟩

def nodes : FieldName := .word "nodes"

def edges : FieldName := .word "edges"

def sections : FieldName := .word "sections"

def stickyNotes : FieldName := ⟨"stickyNotes", "sticky_notes"⟩

def pageId : FieldName := ⟨"pageId", "page_id"⟩

def pageName : FieldName := ⟨"pageName", "page_name"⟩

def diagram : FieldName := .word "diagram"

def pages : FieldName := .word "pages"

def fileName : FieldName := ⟨"fileName", "file_name"⟩

end FieldName

/-! ## Reading -/

open Decoder

def nodeRecord : Decoder NodeRecord := fun v => do
  let fields ← members "NodeRecord" v
  return {
    id := ← required .sourceId Decoder.text fields
    label := ← required .label Decoder.text fields
    shape := ← optional .shapeType Decoder.text fields
    x := ← optional .x number fields
    y := ← optional .y number fields
    sectionId := ← optional .sectionId Decoder.text fields }

def edgeRecord : Decoder EdgeRecord := fun v => do
  let fields ← members "EdgeRecord" v
  return {
    source := ← required .sourceId Decoder.text fields
    target := ← required .targetId Decoder.text fields
    label := ← optional .label Decoder.text fields
    kind := ← required .kind edgeKind fields }

def sectionRecord : Decoder Section := fun v => do
  let fields ← members "SectionRecord" v
  return {
    id := ← required .sourceId Decoder.text fields
    label := ← required .label Decoder.text fields
    members := ← required .nodeIds (list Decoder.text) fields }

def stickyRecord : Decoder StickyNote := fun v => do
  let fields ← members "StickyRecord" v
  return {
    id := ← required .sourceId Decoder.text fields
    text := ← required .text Decoder.text fields }

/-- The four lists of a diagram, put into a page with that id and name. -/
def diagramRecord (id name : String) : Decoder PageRecord := fun v => do
  let fields ← members "DiagramRecord" v
  return {
    id
    name
    nodes := ← required .nodes (list nodeRecord) fields
    edges := ← required .edges (list edgeRecord) fields
    sections := ← required .sections (list sectionRecord) fields
    stickies := ← required .stickyNotes (list stickyRecord) fields }

def pageRecord : Decoder PageRecord := fun v => do
  let fields ← members "PageRecord" v
  let id ← required .pageId Decoder.text fields
  let name ← required .pageName Decoder.text fields
  required .diagram (diagramRecord id name) fields

namespace PageList

def ofJson : Decoder PageList := fun v => do
  let fields ← members "PageListDocument" v
  return {
    pages := ← required .pages (list pageRecord) fields
    fileName := ← optional .fileName Decoder.text fields }

end PageList

/-! ## Writing -/

def finiteOrNull : Option Finite → Json
  | some x => .num (.binary (.finite x))
  | none => .null

def NodeRecord.toJson (r : NodeRecord) : Json :=
  .obj [("sourceId", .str r.id), ("label", .str r.label), ("shapeType", .ofString? r.shape),
    ("x", finiteOrNull r.x), ("y", finiteOrNull r.y), ("sectionId", .ofString? r.sectionId)]

def EdgeRecord.toJson (r : EdgeRecord) : Json :=
  .obj [("sourceId", .str r.source), ("targetId", .str r.target), ("label", .ofString? r.label),
    ("kind", .str r.kind.name)]

def sectionJson (r : Section) : Json :=
  .obj [("sourceId", .str r.id), ("label", .str r.label), ("nodeIds", .arr (r.members.map .str))]

def stickyJson (r : StickyNote) : Json := .obj [("sourceId", .str r.id), ("text", .str r.text)]

def PageRecord.toJson (r : PageRecord) : Json :=
  .obj [("pageId", .str r.id), ("pageName", .str r.name),
    ("diagram", .obj [("nodes", .arr (r.nodes.map NodeRecord.toJson)),
      ("edges", .arr (r.edges.map EdgeRecord.toJson)),
      ("sections", .arr (r.sections.map sectionJson)),
      ("stickyNotes", .arr (r.stickies.map stickyJson))])]

def PageList.toJson (doc : PageList) : Json :=
  .obj [("pages", .arr (doc.pages.map PageRecord.toJson)), ("fileName", .ofString? doc.fileName)]

/-! ## Pages -/

def NodeRecord.toNode (r : NodeRecord) : Node where
  id := r.id
  label := r.label
  shape := r.shape
  x := r.x.map fun x => .binary (.finite x)
  y := r.y.map fun y => .binary (.finite y)
  sectionId := r.sectionId

def EdgeRecord.toEdge (r : EdgeRecord) : Edge where
  source := r.source
  target := r.target
  label := r.label
  kind := r.kind.name

/-- The page of a record, as it is. -/
def PageRecord.toPage (r : PageRecord) : Page where
  id := r.id
  name := r.name
  nodes := r.nodes.map NodeRecord.toNode
  edges := r.edges.map EdgeRecord.toEdge
  sections := r.sections
  stickies := r.stickies

end FlowBoard.Wire
