import FlowBoard.Connector
import FlowBoard.Failure
import FlowBoard.Markup.Reader
import FlowBoard.Number.Literal
import FlowBoard.Wire.PageList

/-!
# Canvas markup

A page list may come as markup: every canvas is a page, its shapes, connectors, sections and
sticky notes are the records. A canvas stands at the top of the text or directly inside a single
outer element. `Canvas.read` gives the page list, whose JSON form leaves absent fields out.
-/

namespace FlowBoard

namespace Wire

/-- The members that have a value. -/
def present (fields : List (String × Option Json)) : Json :=
  .obj (fields.filterMap fun field => field.2.map (field.1, ·))

def NodeRecord.sparseJson (r : NodeRecord) : Json :=
  present [("sourceId", some (.str r.id)), ("label", some (.str r.label)),
    ("shapeType", r.shape.map .str), ("x", r.x.map fun x => .num (.binary (.finite x))),
    ("y", r.y.map fun y => .num (.binary (.finite y))), ("sectionId", r.sectionId.map .str)]

def EdgeRecord.sparseJson (r : EdgeRecord) : Json :=
  present [("sourceId", some (.str r.source)), ("targetId", some (.str r.target)),
    ("kind", some (.str r.kind.name)), ("label", r.label.map .str)]

def PageRecord.sparseJson (r : PageRecord) : Json :=
  .obj [("pageId", .str r.id), ("pageName", .str r.name),
    ("diagram", .obj [("nodes", .arr (r.nodes.map NodeRecord.sparseJson)),
      ("edges", .arr (r.edges.map EdgeRecord.sparseJson)),
      ("sections", .arr (r.sections.map sectionJson)),
      ("stickyNotes", .arr (r.stickies.map stickyJson))])]

/-- The form that leaves absent fields out. -/
def PageList.sparseJson (doc : PageList) : Json :=
  present [("fileName", doc.fileName.map .str),
    ("pages", some (.arr (doc.pages.map PageRecord.sparseJson)))]

end Wire

namespace Canvas

open Wire

def wrapper : String := "jamaid-xml"

/-- All text in an element, cleaned. -/
def cleanText (m : Markup) : String := String.ofList (Text.cleanChars m.chars)

/-- The text before the first element inside, cleaned. -/
def cleanLeadingText (m : Markup) : String :=
  String.ofList (Text.cleanChars (Markup.leadingChars m.content))

def coordinate? (name : String) (m : Markup) : Option Finite :=
  (m.attribute? name).bind Literal.readFinite?

def nodeRecord? (m : Markup) : Option NodeRecord := do
  let id ← m.given? "id"
  let name := m.given? "name"
  return {
    id
    label := Text.orElse (cleanText m) (name.getD id)
    shape := name
    x := coordinate? "x" m
    y := coordinate? "y" m }

def edgeRecord? (m : Markup) : Option EdgeRecord := do
  let first ← m.given? "connectorStart"
  let last ← m.given? "connectorEnd"
  let (source, target, kind) := Connector.resolve first last
    (m.attribute? "connectorStartCap") (m.attribute? "connectorEndCap")
  let label := if (cleanText m).isEmpty then none else some (cleanText m)
  return { source, target, label, kind }

def stickyRecord? (m : Markup) : Option StickyNote := do
  let id ← m.given? "id"
  if (cleanText m).isEmpty then none else some ⟨id, cleanText m⟩

/-- The ids of members, in elements of their own. -/
def memberIds (m : Markup) : List String :=
  ((m.named "section-node").map cleanLeadingText).filter (!·.isEmpty)

/-- Sections that have an id; one without a name is named by its number among them. -/
def sectionRecords (number : Nat) : List Markup → List Section
  | [] => []
  | m :: rest =>
    match m.given? "id" with
    | none => sectionRecords number rest
    | some id =>
      { id
        label :=
          Text.orElse (Text.trim ((m.attribute? "name").getD "")) ("Section " ++ toString number)
        members := memberIds m } :: sectionRecords (number + 1) rest

/-- The page of the canvas with that number. -/
def pageRecord (number : Nat) (m : Markup) : PageRecord where
  id := (m.given? "id").getD ("canvas-" ++ toString number)
  name := (m.given? "name").getD ("Canvas " ++ toString number)
  nodes := (m.named "shape-with-text").filterMap nodeRecord?
  edges := (m.named "connector").filterMap edgeRecord?
  sections := sectionRecords 1 (m.named "section")
  stickies := (m.named "sticky").filterMap stickyRecord?

/-- The canvases at the top, or else inside the only element there. -/
def canvases (root : Markup) : List Markup :=
  if (root.named "canvas").isEmpty then
    match root.elements with
    | [outer] => outer.named "canvas"
    | _ => []
  else root.named "canvas"

def fileName : List PageRecord → String
  | [page] => page.name
  | pages => "FigJam (" ++ toString pages.length ++ " canvases)"

def pageList (canvases : List Markup) : PageList :=
  let pages := canvases.zipIdx.map fun (m, i) => pageRecord (i + 1) m
  { pages, fileName := some (fileName pages) }

/-- Drops a declaration at the front, in letters of either case. -/
def dropDeclaration (cs : List Char) : List Char :=
  if (cs.take 5).map Char.toLower == "<?xml".toList then
    let inside := cs.takeWhile (· != '>')
    match cs.dropWhile (· != '>') with
    | '>' :: rest => if inside.getLast? == some '?' && 5 < inside.length then rest else cs
    | _ => cs
  else cs

/-- Why a text is no list of canvases. -/
inductive Fault
  | malformed (message : String)
  | noCanvas
deriving DecidableEq, Repr

def Fault.message : Fault → String
  | .malformed message => "Malformed XML: " ++ message
  | .noCanvas => "XML payload has no <canvas> element."

def read (text : String) : Except Fault PageList :=
  let body := dropDeclaration (Text.trimChars text.toList)
  match Markup.readWrapped wrapper body with
  | .error e => .error (.malformed (e.message (Markup.wrapped wrapper body)))
  | .ok root =>
    if (canvases root).isEmpty then .error .noCanvas else .ok (pageList (canvases root))

end Canvas

end FlowBoard
