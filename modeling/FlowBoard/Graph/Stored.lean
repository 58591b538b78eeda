import FlowBoard.Graph.Basic
import FlowBoard.Json.Writer

/-!
# Stored documents

A document is stored as JSON, one object for each record, with a version of the schema. Reading
checks the shape of documents, pages and records but not the values of their fields, so a stored
document keeps every field as the JSON value that it has; fields that may be absent take their
default, and members that no record has are dropped. `Document.stored` is the stored form of a
typed document and `StoredDocument.typed?` goes back.
-/

namespace FlowBoard

/-- Why a value is no stored document. The kinds of value that were found are named as in the
messages. -/
inductive StoredFault
  | missingKey (key : String)
  | missingFields (record : String) (fields : List String)
  | noMethod (found method : String)
  | notIterable (found : String)
  | notIndexable (found : String)
deriving DecidableEq, Repr

/-- The name that messages give to the kind of a value. -/
def Json.kindName : Json → String
  | .null => "NoneType"
  | .bool _ => "bool"
  | .num (.whole _) => "int"
  | .num (.binary _) => "float"
  | .str _ => "str"
  | .arr _ => "list"
  | .obj _ => "dict"

def quotedName (name : String) : String := "'" ++ name ++ "'"

def StoredFault.message : StoredFault → String
  | .missingKey key => quotedName key
  | .missingFields record fields =>
    record ++ ".__init__() missing " ++ toString fields.length ++ " required positional argument" ++
      (if fields.length = 1 then "" else "s") ++ ": " ++
      String.intercalate " and " (fields.map quotedName)
  | .noMethod found method => quotedName found ++ " object has no attribute " ++ quotedName method
  | .notIterable found => quotedName found ++ " object is not iterable"
  | .notIndexable found =>
    if found = "str" then "string indices must be integers, not 'str'"
    else if found = "list" then "list indices must be integers or slices, not str"
    else quotedName found ++ " object is not subscriptable"

/-! ## Records -/

/-- The fields of a record in order, each with its default unless it is required. -/
structure RecordForm where
  name : String
  fields : List (String × Option Json)

/-- The fields of a record with their values, in the order of its form. -/
abbrev Record := List (String × Json)

def nodeForm : RecordForm :=
  ⟨"GraphNode", [("source_id", none), ("label", none), ("shape_type", some .null),
    ("x", some .null), ("y", some .null), ("section_id", some .null)]⟩

def edgeForm : RecordForm :=
  ⟨"GraphEdge", [("source_id", none), ("target_id", none), ("label", some .null),
    ("kind", some (.str EdgeKind.arrow.name))]⟩

def sectionForm : RecordForm :=
  ⟨"Section", [("source_id", none), ("label", none), ("node_ids", some (.arr []))]⟩

def stickyForm : RecordForm := ⟨"StickyNote", [("source_id", none), ("text", none)]⟩

namespace RecordForm

/-- The required fields that an object lacks. -/
def missing (form : RecordForm) (given : Json.Fields) : List String :=
  form.fields.filterMap fun field =>
    if field.2.isNone && (Keyed.find? field.1 given).isNone then some field.1 else none

def read (form : RecordForm) : Json → Except StoredFault Record
  | .obj given =>
    if (form.missing given).isEmpty then
      .ok (form.fields.map fun field =>
        (field.1, (Keyed.find? field.1 given).getD (field.2.getD .null)))
    else .error (.missingFields form.name (form.missing given))
  | v => .error (.noMethod v.kindName "items")

end RecordForm

/-! ## Pages and documents -/

structure StoredPage where
  id : Json
  name : Json
  nodes : List Record
  edges : List Record
  sections : List Record
  stickies : List Record

structure StoredDocument where
  sourceKind : Json
  fileKey : Json
  fileName : Json
  pages : List StoredPage

/-- What a traversal of a value meets: items, keys or characters. -/
def Json.elements : Json → Except StoredFault (List Json)
  | .arr items => .ok items
  | .obj fields => .ok (fields.map fun field => .str field.1)
  | .str s => .ok (s.toList.map fun c => .str (String.singleton c))
  | v => .error (.notIterable v.kindName)

/-- The elements of a member, which may be absent. -/
def Json.elementsAt (key : String) (fields : Json.Fields) : Except StoredFault (List Json) :=
  match Keyed.find? key fields with
  | some v => v.elements
  | none => .ok []

def readRecords (form : RecordForm) (key : String) (fields : Json.Fields) :
    Except StoredFault (List Record) := do
  (← Json.elementsAt key fields).mapM form.read

def requiredMember (key : String) (fields : Json.Fields) : Except StoredFault Json :=
  match Keyed.find? key fields with
  | some v => .ok v
  | none => .error (.missingKey key)

namespace StoredPage

def ofJson : Json → Except StoredFault StoredPage
  | .obj fields => do
    return {
      id := ← requiredMember "page_id" fields
      name := ← requiredMember "page_name" fields
      nodes := ← readRecords nodeForm "nodes" fields
      edges := ← readRecords edgeForm "edges" fields
      sections := ← readRecords sectionForm "sections" fields
      stickies := ← readRecords stickyForm "sticky_notes" fields }
  | v => .error (.notIndexable v.kindName)

def toJson (page : StoredPage) : Json :=
  .obj [("page_id", page.id), ("page_name", page.name),
    ("nodes", .arr (page.nodes.map .obj)), ("edges", .arr (page.edges.map .obj)),
    ("sections", .arr (page.sections.map .obj)),
    ("sticky_notes", .arr (page.stickies.map .obj))]

end StoredPage

def schemaVersion : String := "1.0.0"

namespace StoredDocument

def ofJson : Json → Except StoredFault StoredDocument
  | .obj fields => do
    return {
      sourceKind := (Keyed.find? "source_kind" fields).getD (.str WireForm.structured.name)
      fileKey := (Keyed.find? "file_key" fields).getD (.str "")
      fileName := (Keyed.find? "file_name" fields).getD .null
      pages := ← (← Json.elementsAt "pages" fields).mapM StoredPage.ofJson }
  | v => .error (.noMethod v.kindName "get")

def toJson (doc : StoredDocument) : Json :=
  .obj [("source_kind", doc.sourceKind), ("file_key", doc.fileKey), ("file_name", doc.fileName),
    ("pages", .arr (doc.pages.map StoredPage.toJson)), ("schema_version", .str schemaVersion)]

/-- The text of the file that stores a document. -/
def fileText (doc : StoredDocument) (lone : Text.StandIns := {}) : String :=
  doc.toJson.pretty lone ++ "\n"

/-- Equality of the documents' values. -/
def sameValue (a b : StoredDocument) : Bool := a.toJson.sameValue b.toJson

end StoredDocument

/-! ## Typed records -/

def Node.record (node : Node) : Record :=
  [("source_id", .str node.id), ("label", .str node.label), ("shape_type", .ofString? node.shape),
    ("x", .ofNumber? node.x), ("y", .ofNumber? node.y), ("section_id", .ofString? node.sectionId)]

def Edge.record (edge : Edge) : Record :=
  [("source_id", .str edge.source), ("target_id", .str edge.target),
    ("label", .ofString? edge.label), ("kind", .str edge.kind)]

def Section.record (group : Section) : Record :=
  [("source_id", .str group.id), ("label", .str group.label),
    ("node_ids", .arr (group.members.map .str))]

def StickyNote.record (note : StickyNote) : Record :=
  [("source_id", .str note.id), ("text", .str note.text)]

def Page.stored (page : Page) : StoredPage where
  id := .str page.id
  name := .str page.name
  nodes := page.nodes.map Node.record
  edges := page.edges.map Edge.record
  sections := page.sections.map Section.record
  stickies := page.stickies.map StickyNote.record

def Document.stored (doc : Document) : StoredDocument where
  sourceKind := .str doc.sourceKind
  fileKey := .str doc.fileKey
  fileName := .ofString? doc.fileName
  pages := doc.pages.map Page.stored

def Json.text? : Json → Option String
  | .str s => some s
  | _ => none

/-- A string or null. -/
def Json.textOrNull? : Json → Option (Option String)
  | .str s => some (some s)
  | .null => some none
  | _ => none

/-- A number or null. -/
def Json.numberOrNull? : Json → Option (Option Number)
  | .num n => some (some n)
  | .null => some none
  | _ => none

def Json.texts? : Json → Option (List String)
  | .arr items => items.mapM Json.text?
  | _ => none

def Record.node? (r : Record) : Option Node := do
  return {
    id := ← (← Keyed.find? "source_id" r).text?
    label := ← (← Keyed.find? "label" r).text?
    shape := ← (← Keyed.find? "shape_type" r).textOrNull?
    x := ← (← Keyed.find? "x" r).numberOrNull?
    y := ← (← Keyed.find? "y" r).numberOrNull?
    sectionId := ← (← Keyed.find? "section_id" r).textOrNull? }

def Record.edge? (r : Record) : Option Edge := do
  return {
    source := ← (← Keyed.find? "source_id" r).text?
    target := ← (← Keyed.find? "target_id" r).text?
    label := ← (← Keyed.find? "label" r).textOrNull?
    kind := ← (← Keyed.find? "kind" r).text? }

def Record.section? (r : Record) : Option Section := do
  return {
    id := ← (← Keyed.find? "source_id" r).text?
    label := ← (← Keyed.find? "label" r).text?
    members := ← (← Keyed.find? "node_ids" r).texts? }

def Record.sticky? (r : Record) : Option StickyNote := do
  return {
    id := ← (← Keyed.find? "source_id" r).text?
    text := ← (← Keyed.find? "text" r).text? }

/-- The page, if every field has a value of its type. -/
def StoredPage.typed? (page : StoredPage) : Option Page := do
  return {
    id := ← page.id.text?
    name := ← page.name.text?
    nodes := ← page.nodes.mapM Record.node?
    edges := ← page.edges.mapM Record.edge?
    sections := ← page.sections.mapM Record.section?
    stickies := ← page.stickies.mapM Record.sticky? }

/-- The document, if every field has a value of its type. -/
def StoredDocument.typed? (doc : StoredDocument) : Option Document := do
  return {
    sourceKind := ← doc.sourceKind.text?
    fileKey := ← doc.fileKey.text?
    fileName := ← doc.fileName.textOrNull?
    pages := ← doc.pages.mapM StoredPage.typed? }

def Document.toJson (doc : Document) : Json := doc.stored.toJson

def Page.toJson (page : Page) : Json := page.stored.toJson

/-- The typed page that a value stores. -/
def Page.ofJson? (v : Json) : Option Page := (StoredPage.ofJson v).toOption.bind StoredPage.typed?

end FlowBoard
