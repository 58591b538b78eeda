import FlowBoard.Proofs.Ingestion.Drawing
import FlowBoard.Proofs.Text.Blank
import Mathlib.Data.List.Basic

/-!
# Canvas markup is transcribed record by record

Every element of a sheet gives the record of its item, whatever stands between them. The markup does
not tell the sections of shapes; an empty label, an empty member and an empty note are left out.
-/

namespace FlowBoard

namespace Wire

def NodeRecord.untagged (r : NodeRecord) : NodeRecord := { r with sectionId := none }

def EdgeRecord.tidied (r : EdgeRecord) : EdgeRecord :=
  { r with label := r.label.filter (!·.isEmpty) }

def nonemptyMembers (group : Section) : Section :=
  { group with members := group.members.filter (!·.isEmpty) }

def PageRecord.untagged (r : PageRecord) : PageRecord :=
  { r with nodes := r.nodes.map NodeRecord.untagged }

/-- The list with no section told of any node. -/
def PageList.untagged (list : PageList) : PageList :=
  { list with pages := list.pages.map PageRecord.untagged }

/-- What is left of a record in markup. -/
def PageRecord.transcribed (r : PageRecord) : PageRecord where
  id := r.id
  name := r.name
  nodes := r.nodes.map NodeRecord.untagged
  edges := r.edges.map EdgeRecord.tidied
  sections := r.sections.map nonemptyMembers
  stickies := r.stickies.filter fun note => !note.text.isEmpty

end Wire

theorem Key.filter_isEmpty (key : Key) : (some key.val).filter (!·.isEmpty) = some key.val := by
  rw [Option.filter_some, if_pos (by simpa using key.property)]

namespace Drawing

open Wire

/-! ## Texts of elements -/

theorem charsOf_characters (s : String) : Markup.charsOf (characters s) = s.toList := by
  have hchars : ∀ cs : List Char, Markup.charsOf (cs.map .char) = cs := by
    intro cs
    induction cs with
    | nil => rfl
    | cons c rest ih => rw [List.map_cons, Markup.charsOf, ih, Markup.chars, List.singleton_append]
  exact hchars s.toList

theorem leadingChars_characters (s : String) : Markup.leadingChars (characters s) = s.toList := by
  have hchars : ∀ cs : List Char, Markup.leadingChars (cs.map .char) = cs := by
    intro cs
    induction cs with
    | nil => rfl
    | cons c rest ih => rw [List.map_cons, Markup.leadingChars, ih]
  exact hchars s.toList

theorem cleanText_characters (name : Markup.Name) (attributes : List (Markup.Name × String))
    (s : String) : Canvas.cleanText (.element name attributes (characters s)) = Text.clean s := by
  rw [Canvas.cleanText, Markup.chars, charsOf_characters, Text.clean, Text.onChars]

theorem cleanLeadingText_memberMarkup (id : Solid) :
    Canvas.cleanLeadingText (memberMarkup id) = id := by
  rw [Canvas.cleanLeadingText, memberMarkup, Markup.content, leadingChars_characters,
    Text.cleanChars_eq_self id.property, String.ofList_toList]

/-! ## Records of elements -/

theorem coordinate?_markup {m : Markup} {name : String} {c : Option Coordinate}
    (h : m.attribute? name = c.map Coordinate.numeral) :
    Canvas.coordinate? name m = c.map Coordinate.value := by
  rw [Canvas.coordinate?, h]
  cases c with
  | none => rfl
  | some c => exact c.reads

theorem attributes_shape (shape : Shape) :
    shape.markup.attribute? "name" = shape.kind.map Subtype.val ∧
      shape.markup.attribute? "x" = shape.x.map Coordinate.numeral ∧
      shape.markup.attribute? "y" = shape.y.map Coordinate.numeral := by
  obtain ⟨id, label, kind, x, y, sectionId⟩ := shape
  cases kind <;> cases x <;> cases y <;> exact ⟨rfl, rfl, rfl⟩

theorem nodeRecord?_markup (shape : Shape) :
    Canvas.nodeRecord? shape.markup = some shape.record.untagged := by
  obtain ⟨hname, hx, hy⟩ := attributes_shape shape
  have hid : shape.markup.given? "id" = some shape.id.val := shape.id.filter_isEmpty
  have hkind : shape.markup.given? "name" = shape.kind.map Subtype.val := by
    rw [Markup.given?, hname]
    cases shape.kind with
    | none => rfl
    | some kind => exact kind.filter_isEmpty
  have hlabel : Canvas.cleanText shape.markup = shape.label.val :=
    (cleanText_characters _ _ _).trans shape.label.property.1
  rw [Canvas.nodeRecord?, hid, hkind, hlabel, coordinate?_markup hx, coordinate?_markup hy]
  simp only [Text.orElse, String.isEmpty_iff, shape.label.property.2, if_false]
  rfl

theorem attributes_link (link : Link) :
    link.markup.attribute? "connectorStartCap" = link.startCap ∧
      link.markup.attribute? "connectorEndCap" = link.finishCap := by
  obtain ⟨start, finish, startCap, finishCap, label⟩ := link
  cases startCap <;> cases finishCap <;> exact ⟨rfl, rfl⟩

theorem edgeRecord?_markup (link : Link) :
    Canvas.edgeRecord? link.markup = some link.record.tidied := by
  obtain ⟨hstartCap, hfinishCap⟩ := attributes_link link
  have hstart : link.markup.given? "connectorStart" = some link.start.val :=
    link.start.filter_isEmpty
  have hfinish : link.markup.given? "connectorEnd" = some link.finish.val :=
    link.finish.filter_isEmpty
  have hlabel : (if (Canvas.cleanText link.markup).isEmpty then none
      else some (Canvas.cleanText link.markup)) =
      (link.label.map Subtype.val).filter (!·.isEmpty) := by
    rw [Link.markup, cleanText_characters]
    cases link.label with
    | none => rfl
    | some label =>
      rw [Option.map_some, Option.getD_some, label.property, Option.filter_some]
      cases label.val.isEmpty <;> rfl
  rw [Canvas.edgeRecord?, hstart, hfinish, hstartCap, hfinishCap, hlabel]
  rfl

theorem stickyRecord?_markup (note : Note) : Canvas.stickyRecord? note.markup =
    if note.record.text.isEmpty then none else some note.record := by
  have hid : note.markup.given? "id" = some note.id.val := note.id.filter_isEmpty
  have htext : Canvas.cleanText note.markup = note.text.val :=
    (cleanText_characters _ _ _).trans note.text.property
  rw [Canvas.stickyRecord?, hid, htext]
  rfl

theorem memberIds_markup (group : Group) :
    Canvas.memberIds group.markup = (nonemptyMembers group.record).members := by
  have hnamed : group.markup.named "section-node" = group.members.map memberMarkup := by
    apply List.filter_eq_self.mpr
    intro m hm
    obtain ⟨id, _, rfl⟩ := List.mem_map.mp hm
    rfl
  rw [Canvas.memberIds, hnamed, List.map_map, nonemptyMembers, Group.record]
  refine congrArg (List.filter _) (List.map_congr_left fun id _ => ?_)
  exact cleanLeadingText_memberMarkup id

/-- Every section has an id and a name, so none is numbered. -/
theorem sectionRecords_markup (groups : List Group) (number : Nat) :
    Canvas.sectionRecords number (groups.map Group.markup) =
      (groups.map Group.record).map nonemptyMembers := by
  induction groups generalizing number with
  | nil => rfl
  | cons group rest ih =>
    have hid : group.markup.given? "id" = some group.id.val := group.id.filter_isEmpty
    have hname : group.markup.attribute? "name" = some group.name.val := rfl
    have hlabel : Text.orElse (Text.trim ((some group.name.val).getD ""))
        ("Section " ++ toString number) = group.name := by
      rw [Option.getD_some, group.name.property.1, Text.orElse,
        if_neg (by simpa using group.name.property.2)]
    rw [List.map_cons, Canvas.sectionRecords, hid, hname, hlabel, memberIds_markup]
    exact congrArg (_ :: ·) (ih (number + 1))

/-! ## Records of sheets -/

theorem named_markup {α : Type} {base : String} {select : Item → Option α} {write : α → Markup}
    (h : ∀ item : Item, (if item.markup.isNamed base then some item.markup else none) =
      (select item).map write) (sheet : Sheet) :
    sheet.markup.named base = (sheet.items.filterMap select).map write := by
  have hnamed : sheet.markup.named base =
      (sheet.items.map Item.markup).filter (Markup.isNamed base) := rfl
  rw [hnamed, List.map_filterMap, ← List.filterMap_eq_filter, List.filterMap_map]
  refine List.filterMap_congr fun item _ => ?_
  rw [← h item]
  rfl

theorem pageRecord_markup (sheet : Sheet) (number : Nat) :
    Canvas.pageRecord number sheet.markup = sheet.record.transcribed := by
  have hid : sheet.markup.given? "id" = some sheet.id.val := sheet.id.filter_isEmpty
  have hname : sheet.markup.given? "name" = some sheet.name.val := sheet.name.filter_isEmpty
  have hshapes : sheet.markup.named "shape-with-text" =
      (sheet.items.filterMap Item.shape?).map Shape.markup :=
    named_markup (fun item => by cases item <;> rfl) sheet
  have hlinks : sheet.markup.named "connector" =
      (sheet.items.filterMap Item.link?).map Link.markup :=
    named_markup (fun item => by cases item <;> rfl) sheet
  have hgroups : sheet.markup.named "section" =
      (sheet.items.filterMap Item.group?).map Group.markup :=
    named_markup (fun item => by cases item <;> rfl) sheet
  have hnotes : sheet.markup.named "sticky" =
      (sheet.items.filterMap Item.note?).map Note.markup :=
    named_markup (fun item => by cases item <;> rfl) sheet
  have hnodes : (sheet.markup.named "shape-with-text").filterMap Canvas.nodeRecord? =
      sheet.record.nodes.map NodeRecord.untagged := by
    rw [hshapes, List.filterMap_map, Sheet.record, List.map_map, ← List.filterMap_eq_map]
    exact List.filterMap_congr fun shape _ => nodeRecord?_markup shape
  have hedges : (sheet.markup.named "connector").filterMap Canvas.edgeRecord? =
      sheet.record.edges.map EdgeRecord.tidied := by
    rw [hlinks, List.filterMap_map, Sheet.record, List.map_map, ← List.filterMap_eq_map]
    exact List.filterMap_congr fun link _ => edgeRecord?_markup link
  have hstickies : (sheet.markup.named "sticky").filterMap Canvas.stickyRecord? =
      sheet.record.stickies.filter fun note => !note.text.isEmpty := by
    rw [hnotes, List.filterMap_map, Sheet.record, ← List.filterMap_eq_filter, List.filterMap_map]
    refine List.filterMap_congr fun note _ => (stickyRecord?_markup note).trans ?_
    by_cases hempty : note.record.text.isEmpty = true
    · simp [Option.guard, hempty]
    · simp [Option.guard, hempty]
  rw [Canvas.pageRecord, hid, hname, hnodes, hedges, hstickies, hgroups, sectionRecords_markup]
  rfl

/-- The canvases are found in either frame, and one is there. -/
theorem canvases_markup (drawing : Drawing) (frame : Frame) :
    Canvas.canvases (drawing.markup frame) = drawing.sheets.map Sheet.markup ∧
      Canvas.canvases (drawing.markup frame) ≠ [] := by
  have hnamed (m : Markup) (h : m.content = drawing.sheets.map Sheet.markup) :
      m.named "canvas" = drawing.sheets.map Sheet.markup := by
    rw [Markup.named, h]
    apply List.filter_eq_self.mpr
    intro canvas hc
    obtain ⟨sheet, _, rfl⟩ := List.mem_map.mp hc
    rfl
  have hne : drawing.sheets.map Sheet.markup ≠ [] := by
    simpa using drawing.nonempty
  suffices h : Canvas.canvases (drawing.markup frame) = drawing.sheets.map Sheet.markup from
    ⟨h, h ▸ hne⟩
  cases frame with
  | top =>
    rw [Canvas.canvases, hnamed _ rfl, if_neg (by simpa using drawing.nonempty)]
  | inside name attributes =>
    have hnone : (drawing.markup (.inside name attributes)).named "canvas" = [] := by
      have hname : (name.val == Markup.Name.plain "canvas") = false := by
        simpa using name.property
      rw [Markup.named, markup, Markup.content, List.filter_cons, Markup.isNamed, hname]
      rfl
    rw [Canvas.canvases, hnone, if_pos List.isEmpty_nil]
    exact hnamed _ rfl

theorem pages_markup (drawing : Drawing) (frame : Frame) :
    (Canvas.pageList (Canvas.canvases (drawing.markup frame))).pages =
      drawing.pageList.pages.map PageRecord.transcribed := by
  rw [(drawing.canvases_markup frame).1, Canvas.pageList, pageList, List.map_map]
  apply List.ext_getElem
  · simp
  · intro i hi _
    simp [pageRecord_markup]

end Drawing

end FlowBoard
