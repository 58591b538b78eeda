import FlowBoard.Canvas
import FlowBoard.Ingested
import FlowBoard.Proofs.Ingestion.Board

/-!
# Drawings in markup and in records

A drawing is what canvas markup can say: sheets of shapes, connectors, sections and sticky notes in
any order. `Drawing.markup` puts it in elements, which stand at the top or in one outer element;
`Drawing.pageList` lists its records. A shape may refer to a section, which only the records tell.
-/

namespace FlowBoard

/-- No character of the text is blank. -/
def IsSolid (s : String) : Prop := ∀ c ∈ s.toList, Text.isBlank c = false

instance (s : String) : Decidable (IsSolid s) :=
  decidable_of_iff (s.toList.all (!Text.isBlank ·) = true) (by simp [IsSolid])

/-- A text without blank characters. -/
abbrev Solid := { s : String // IsSolid s }

/-- A text in which cleaning has nothing left to do; it may be empty. -/
abbrev CleanLine := { s : String // Text.clean s = s }

/-- A text without blanks at its ends. -/
abbrev TrimmedText := { s : String // Text.trim s = s ∧ s ≠ "" }

namespace Drawing

/-- A finite number with a numeral that is read as it. -/
structure Coordinate where
  numeral : String
  value : Finite
  reads : Literal.readFinite? numeral = some value

structure Shape where
  id : Key
  label : CleanText
  kind : Option Key := none
  x : Option Coordinate := none
  y : Option Coordinate := none
  sectionId : Option String := none

structure Link where
  start : Key
  finish : Key
  startCap : Option String := none
  finishCap : Option String := none
  label : Option CleanLine := none

structure Group where
  id : Key
  name : TrimmedText
  members : List Solid

structure Note where
  id : Key
  text : CleanLine

inductive Item
  | shape (shape : Shape)
  | link (link : Link)
  | group (group : Group)
  | note (note : Note)

namespace Item

def shape? : Item → Option Shape
  | .shape s => some s
  | _ => none

def link? : Item → Option Link
  | .link l => some l
  | _ => none

def group? : Item → Option Group
  | .group g => some g
  | _ => none

def note? : Item → Option Note
  | .note n => some n
  | _ => none

end Item

/-- What is on one canvas; no two shapes on it share an id. -/
structure Sheet where
  id : Key
  name : Key
  items : List Item
  nodup_shapes : ((items.filterMap Item.shape?).map (·.id.val)).Nodup

end Drawing

structure Drawing where
  sheets : List Drawing.Sheet
  nonempty : sheets ≠ []
  fileName : Option String := none

namespace Drawing

/-! ## Records -/

open Wire

def Shape.record (shape : Shape) : NodeRecord where
  id := shape.id
  label := shape.label
  shape := shape.kind.map Subtype.val
  x := shape.x.map Coordinate.value
  y := shape.y.map Coordinate.value
  sectionId := shape.sectionId

def Link.record (link : Link) : EdgeRecord :=
  let (source, target, kind) :=
    Connector.resolve link.start link.finish link.startCap link.finishCap
  { source, target, label := link.label.map Subtype.val, kind }

def Group.record (group : Group) : Section where
  id := group.id
  label := group.name
  members := group.members.map Subtype.val

def Note.record (note : Note) : StickyNote := ⟨note.id, note.text⟩

def Sheet.record (sheet : Sheet) : PageRecord where
  id := sheet.id
  name := sheet.name
  nodes := (sheet.items.filterMap Item.shape?).map Shape.record
  edges := (sheet.items.filterMap Item.link?).map Link.record
  sections := (sheet.items.filterMap Item.group?).map Group.record
  stickies := (sheet.items.filterMap Item.note?).map Note.record

def pageList (drawing : Drawing) : PageList where
  pages := drawing.sheets.map Sheet.record
  fileName := drawing.fileName

/-- No connector has a label that is there but empty. -/
def NoEmptyLabel (drawing : Drawing) : Prop :=
  ∀ sheet ∈ drawing.sheets, ∀ edge ∈ sheet.record.edges, edge.label ≠ some ""

instance (drawing : Drawing) : Decidable drawing.NoEmptyLabel :=
  inferInstanceAs (Decidable (∀ sheet ∈ drawing.sheets, ∀ edge ∈ _, _ ≠ _))

/-! ## Markup -/

/-- The attributes that have a value. -/
def attributes (fields : List (String × Option String)) : List (Markup.Name × String) :=
  fields.filterMap fun field => field.2.map (Markup.Name.plain field.1, ·)

def characters (s : String) : List Markup := s.toList.map .char

def Shape.markup (shape : Shape) : Markup :=
  .element (.plain "shape-with-text")
    (attributes [("id", some shape.id), ("name", shape.kind.map Subtype.val),
      ("x", shape.x.map Coordinate.numeral), ("y", shape.y.map Coordinate.numeral)])
    (characters shape.label)

def Link.markup (link : Link) : Markup :=
  .element (.plain "connector")
    (attributes [("connectorStart", some link.start), ("connectorEnd", some link.finish),
      ("connectorStartCap", link.startCap), ("connectorEndCap", link.finishCap)])
    (characters ((link.label.map Subtype.val).getD ""))

def memberMarkup (id : Solid) : Markup := .element (.plain "section-node") [] (characters id)

def Group.markup (group : Group) : Markup :=
  .element (.plain "section") (attributes [("id", some group.id), ("name", some group.name)])
    (group.members.map memberMarkup)

def Note.markup (note : Note) : Markup :=
  .element (.plain "sticky") (attributes [("id", some note.id)]) (characters note.text)

def Item.markup : Item → Markup
  | .shape s => s.markup
  | .link l => l.markup
  | .group g => g.markup
  | .note n => n.markup

def Sheet.markup (sheet : Sheet) : Markup :=
  .element (.plain "canvas") (attributes [("id", some sheet.id), ("name", some sheet.name)])
    (sheet.items.map Item.markup)

/-- Where the canvases stand: at the top, or in the only element there. -/
inductive Frame
  | top
  | inside (name : { name : Markup.Name // name ≠ .plain "canvas" })
      (attributes : List (Markup.Name × String))

/-- The element that is read: the wrapper around the canvases, or around an element with them. -/
def markup (drawing : Drawing) : Frame → Markup
  | .top => .element (.plain Canvas.wrapper) [] (drawing.sheets.map Sheet.markup)
  | .inside name attributes =>
    .element (.plain Canvas.wrapper) []
      [.element name attributes (drawing.sheets.map Sheet.markup)]

end Drawing

end FlowBoard
