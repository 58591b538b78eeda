import FlowBoard.Ingested
import FlowBoard.Proofs.Wire.Grammar
import FlowBoard.Proofs.Wire.RoundTrip

/-!
# The grammars of both wire forms

For each record its fields, required or optional, with the grammar of each. The decoders are exact:
a page list is taken if and only if it has the shape, and a tree file if also its items are not
nested too deep.
-/

namespace FlowBoard

namespace Wire

open Grammar

/-! ## Page lists -/

structure NodeFields (fields : Json.Fields) (r : NodeRecord) : Prop where
  id : text.Required .sourceId fields r.id
  label : text.Required .label fields r.label
  shape : text.Optional .shapeType fields r.shape
  x : number.Optional .x fields r.x
  y : number.Optional .y fields r.y
  sectionId : text.Optional .sectionId fields r.sectionId

structure EdgeFields (fields : Json.Fields) (r : EdgeRecord) : Prop where
  source : text.Required .sourceId fields r.source
  target : text.Required .targetId fields r.target
  label : text.Optional .label fields r.label
  kind : edgeKind.Required .kind fields r.kind

structure SectionFields (fields : Json.Fields) (r : Section) : Prop where
  id : text.Required .sourceId fields r.id
  label : text.Required .label fields r.label
  members : text.list.Required .nodeIds fields r.members

structure StickyFields (fields : Json.Fields) (r : StickyNote) : Prop where
  id : text.Required .sourceId fields r.id
  text : text.Required .text fields r.text

/-- The four lists of a page, which stand together in its diagram. -/
structure DiagramFields (fields : Json.Fields) (r : PageRecord) : Prop where
  nodes : (object NodeFields).list.Required .nodes fields r.nodes
  edges : (object EdgeFields).list.Required .edges fields r.edges
  sections : (object SectionFields).list.Required .sections fields r.sections
  stickies : (object StickyFields).list.Required .stickyNotes fields r.stickies

structure PageFields (fields : Json.Fields) (r : PageRecord) : Prop where
  id : text.Required .pageId fields r.id
  name : text.Required .pageName fields r.name
  diagram : (object DiagramFields).Required .diagram fields r

structure PageListFields (fields : Json.Fields) (list : PageList) : Prop where
  pages : (object PageFields).list.Required .pages fields list.pages
  fileName : text.Optional .fileName fields list.fileName

/-! ## Tree files -/

structure EndpointFields (fields : Json.Fields) (e : Endpoint) : Prop where
  itemId : text.Optional .endpointNodeId fields e.itemId

structure BoxFields (fields : Json.Fields) (b : Box) : Prop where
  x : number.Required .boxX fields b.x
  y : number.Required .boxY fields b.y
  width : number.Required .width fields b.width
  height : number.Required .height fields b.height

structure ItemFields (fields : Json.Fields) (item : Item) : Prop where
  id : text.Required .id fields item.id
  kind : text.Required .type fields item.kind
  name : text.Optional .name fields item.name
  characters : text.Optional .characters fields item.characters
  shape : text.Optional .itemShape fields item.shape
  start : (object EndpointFields).Optional .connectorStart fields item.start
  finish : (object EndpointFields).Optional .connectorEnd fields item.finish
  startCap : text.Optional .connectorStartCap fields item.startCap
  finishCap : text.Optional .connectorEndCap fields item.finishCap
  box : (object BoxFields).Optional .boundingBox fields item.box

/-- Items with the items below them, as deep as they are nested. -/
inductive Grammar.tree : Grammar Tree
  | leaf (fields : Json.Fields) (item : Item) (hitem : ItemFields fields item)
      (hchildren : FieldName.children.value? fields = none ∨
        FieldName.children.value? fields = some .null) :
      Grammar.tree (.obj fields) (.node item none)
  | branch (fields : Json.Fields) (item : Item) (items : List Json) (children : List Tree)
      (hitem : ItemFields fields item)
      (hchildren : FieldName.children.value? fields = some (.arr items))
      (hall : List.Forall₂ Grammar.tree items children) :
      Grammar.tree (.obj fields) (.node item (some children))

structure TreeFileFields (fields : Json.Fields) (file : TreeFile) : Prop where
  root : Grammar.tree.Required .document fields file.root
  name : text.Optional .name fields file.name

/-! ## The decoders are exact -/

open Decoder

theorem nodeRecord_exact : nodeRecord.Exact (object NodeFields) := by
  refine Exact.object "NodeRecord" fun fields r => ?_
  simp only [bind_eq_ok_iff, text_exact.required, text_exact.optional, number_exact.optional,
    pure_eq_ok_iff]
  constructor
  · rintro ⟨_, hid, _, hlabel, _, hshape, _, hx, _, hy, _, hsection, rfl⟩
    exact ⟨hid, hlabel, hshape, hx, hy, hsection⟩
  · rintro ⟨hid, hlabel, hshape, hx, hy, hsection⟩
    exact ⟨_, hid, _, hlabel, _, hshape, _, hx, _, hy, _, hsection, rfl⟩

theorem edgeRecord_exact : edgeRecord.Exact (object EdgeFields) := by
  refine Exact.object "EdgeRecord" fun fields r => ?_
  simp only [bind_eq_ok_iff, text_exact.required, text_exact.optional, edgeKind_exact.required,
    pure_eq_ok_iff]
  constructor
  · rintro ⟨_, hsource, _, htarget, _, hlabel, _, hkind, rfl⟩
    exact ⟨hsource, htarget, hlabel, hkind⟩
  · rintro ⟨hsource, htarget, hlabel, hkind⟩
    exact ⟨_, hsource, _, htarget, _, hlabel, _, hkind, rfl⟩

theorem sectionRecord_exact : sectionRecord.Exact (object SectionFields) := by
  refine Exact.object "SectionRecord" fun fields r => ?_
  simp only [bind_eq_ok_iff, text_exact.required, text_exact.list.required, pure_eq_ok_iff]
  constructor
  · rintro ⟨_, hid, _, hlabel, _, hmembers, rfl⟩
    exact ⟨hid, hlabel, hmembers⟩
  · rintro ⟨hid, hlabel, hmembers⟩
    exact ⟨_, hid, _, hlabel, _, hmembers, rfl⟩

theorem stickyRecord_exact : stickyRecord.Exact (object StickyFields) := by
  refine Exact.object "StickyRecord" fun fields r => ?_
  simp only [bind_eq_ok_iff, text_exact.required, pure_eq_ok_iff]
  constructor
  · rintro ⟨_, hid, _, htext, rfl⟩
    exact ⟨hid, htext⟩
  · rintro ⟨hid, htext⟩
    exact ⟨_, hid, _, htext, rfl⟩

/-- The diagram fills a page that has its id and name already. -/
theorem diagramRecord_exact (id name : String) : (diagramRecord id name).Exact
    (object fun fields r => id = r.id ∧ name = r.name ∧ DiagramFields fields r) := by
  refine Exact.object "DiagramRecord" fun fields r => ?_
  simp only [bind_eq_ok_iff, nodeRecord_exact.list.required, edgeRecord_exact.list.required,
    sectionRecord_exact.list.required, stickyRecord_exact.list.required, pure_eq_ok_iff]
  constructor
  · rintro ⟨_, hnodes, _, hedges, _, hsections, _, hstickies, rfl⟩
    exact ⟨rfl, rfl, hnodes, hedges, hsections, hstickies⟩
  · rintro ⟨rfl, rfl, hnodes, hedges, hsections, hstickies⟩
    exact ⟨_, hnodes, _, hedges, _, hsections, _, hstickies, rfl⟩

theorem pageRecord_exact : pageRecord.Exact (object PageFields) := by
  refine Exact.object "PageRecord" fun fields r => ?_
  simp only [bind_eq_ok_iff, text_exact.required, (diagramRecord_exact _ _).required]
  constructor
  · rintro ⟨_, hid, _, hname, _, hdiagram, inner, rfl, rfl, rfl, hinner⟩
    exact ⟨hid, hname, _, hdiagram, inner, rfl, hinner⟩
  · rintro ⟨hid, hname, _, hdiagram, inner, rfl, hinner⟩
    exact ⟨_, hid, _, hname, _, hdiagram, inner, rfl, rfl, rfl, hinner⟩

theorem PageList.ofJson_exact : Decoder.Exact PageList.ofJson (object PageListFields) := by
  refine Exact.object "PageListDocument" fun fields list => ?_
  simp only [bind_eq_ok_iff, pageRecord_exact.list.required, text_exact.optional, pure_eq_ok_iff]
  constructor
  · rintro ⟨_, hpages, _, hname, rfl⟩
    exact ⟨hpages, hname⟩
  · rintro ⟨hpages, hname⟩
    exact ⟨_, hpages, _, hname, rfl⟩

theorem endpoint_exact : endpoint.Exact (object EndpointFields) := by
  refine Exact.object "Endpoint" fun fields e => ?_
  simp only [bind_eq_ok_iff, text_exact.optional, pure_eq_ok_iff]
  constructor
  · rintro ⟨_, hid, rfl⟩
    exact ⟨hid⟩
  · rintro ⟨hid⟩
    exact ⟨_, hid, rfl⟩

theorem boundingBox_exact : boundingBox.Exact (object BoxFields) := by
  refine Exact.object "BoundingBox" fun fields b => ?_
  simp only [bind_eq_ok_iff, number_exact.required, pure_eq_ok_iff]
  constructor
  · rintro ⟨_, hx, _, hy, _, hwidth, _, hheight, rfl⟩
    exact ⟨hx, hy, hwidth, hheight⟩
  · rintro ⟨hx, hy, hwidth, hheight⟩
    exact ⟨_, hx, _, hy, _, hwidth, _, hheight, rfl⟩

theorem itemFields_eq_ok_iff {fields : Json.Fields} {item : Item} :
    itemFields fields = .ok item ↔ ItemFields fields item := by
  simp only [itemFields, bind_eq_ok_iff, text_exact.required, text_exact.optional,
    endpoint_exact.optional, boundingBox_exact.optional, pure_eq_ok_iff]
  constructor
  · rintro ⟨_, hid, _, hkind, _, hname, _, hcharacters, _, hshape, _, hstart, _, hfinish, _,
      hstartCap, _, hfinishCap, _, hbox, rfl⟩
    exact ⟨hid, hkind, hname, hcharacters, hshape, hstart, hfinish, hstartCap, hfinishCap, hbox⟩
  · rintro ⟨hid, hkind, hname, hcharacters, hshape, hstart, hfinish, hstartCap, hfinishCap, hbox⟩
    exact ⟨_, hid, _, hkind, _, hname, _, hcharacters, _, hshape, _, hstart, _, hfinish, _,
      hstartCap, _, hfinishCap, _, hbox, rfl⟩

theorem forall₂_tree_iff {items : List Json} {trees : List Tree} {n : Nat} :
    List.Forall₂ (fun v t => Grammar.tree v t ∧ t.depth ≤ n) items trees ↔
      List.Forall₂ Grammar.tree items trees ∧ Tree.depthOf trees ≤ n := by
  constructor
  · intro hall
    induction hall with
    | nil => exact ⟨.nil, Nat.zero_le n⟩
    | cons ht _ ih =>
      rw [Tree.depthOf]
      exact ⟨.cons ht.1 ih.1, Nat.max_le.mpr ⟨ht.2, ih.2⟩⟩
  · rintro ⟨hall, hdepth⟩
    induction hall with
    | nil => exact .nil
    | cons ht _ ih =>
      rw [Tree.depthOf, Nat.max_le] at hdepth
      exact .cons ⟨ht, hdepth.1⟩ (ih hdepth.2)

/-- A decoder that goes `n` items deep takes exactly the trees that are not deeper. -/
theorem tree_exact (n : Nat) : (tree n).Exact fun v t => Grammar.tree v t ∧ t.depth ≤ n := by
  induction n with
  | zero =>
    intro v t
    obtain ⟨item, children⟩ := t
    cases children <;> simp [tree, Tree.depth]
  | succ n ih =>
    intro v t
    simp only [tree, bind_eq_ok_iff, members_eq_ok_iff, itemFields_eq_ok_iff, ih.list.optional,
      pure_eq_ok_iff]
    constructor
    · rintro ⟨fields, rfl, item, hitem, children, hchildren, rfl⟩
      cases hchildren with
      | absent h => exact ⟨.leaf fields item hitem (.inl h), Nat.succ_pos n⟩
      | null h => exact ⟨.leaf fields item hitem (.inr h), Nat.succ_pos n⟩
      | given v trees h _ hv =>
        obtain ⟨items, rfl, hall⟩ := hv
        obtain ⟨hall, hdepth⟩ := forall₂_tree_iff.mp hall
        exact ⟨.branch fields item items trees hitem h hall, Nat.succ_le_succ hdepth⟩
    · rintro ⟨htree, hdepth⟩
      cases htree with
      | leaf fields item hitem hchildren =>
        exact ⟨fields, rfl, item, hitem, none, hchildren.elim .absent .null, rfl⟩
      | branch fields item items trees hitem hchildren hall =>
        have hbelow := forall₂_tree_iff.mpr ⟨hall, Nat.le_of_succ_le_succ hdepth⟩
        exact ⟨fields, rfl, item, hitem, some trees,
          .given (.arr items) trees hchildren nofun ⟨items, rfl, hbelow⟩, rfl⟩

theorem TreeFile.ofJson_exact : Decoder.Exact TreeFile.ofJson
    fun v file => object TreeFileFields v file ∧ file.root.depth ≤ maxDepth := by
  intro v file
  simp only [TreeFile.ofJson, bind_eq_ok_iff, members_eq_ok_iff, (tree_exact maxDepth).required,
    text_exact.optional, pure_eq_ok_iff]
  constructor
  · rintro ⟨fields, rfl, root, ⟨document, hdocument, hroot, hdepth⟩, _, hname, rfl⟩
    exact ⟨⟨fields, rfl, ⟨document, hdocument, hroot⟩, hname⟩, hdepth⟩
  · rintro ⟨⟨fields, rfl, ⟨document, hdocument, hroot⟩, hname⟩, hdepth⟩
    exact ⟨fields, rfl, _, ⟨document, hdocument, hroot, hdepth⟩, _, hname, rfl⟩

theorem mapError_eq_ok_iff {α ε ε' : Type} {x : Except ε α} {f : ε → ε'} {a : α} :
    x.mapError f = .ok a ↔ x = .ok a := by
  cases x <;> simp [Except.mapError]

/-- The checks take exactly the values of their grammars, and copy them; a whole number becomes the
finite number that is nearest, and one that is equal where there is one. -/
theorem checks_exact :
    (∀ v root list, checkPageList v root = .ok list ↔ object PageListFields v list) ∧
    (∀ v root file, checkTree v root = .ok file ↔
      object TreeFileFields v file ∧ file.root.depth ≤ maxDepth) ∧
    ∀ (n : Int) (x : Finite), Grammar.number (.num (.whole n)) x →
      (∃ y : Finite, y.units = n * twoTo 1074) → x.units = n * twoTo 1074 := by
  refine ⟨fun v root list => ?_, fun v root file => ?_, fun n x hx hequal => ?_⟩
  · rw [checkPageList, mapError_eq_ok_iff, PageList.ofJson_exact v list]
  · rw [checkTree, mapError_eq_ok_iff, TreeFile.ofJson_exact v file]
  · cases hx with
    | whole _ _ _ nearest => exact nearest.units_eq hequal

/-- Three, which is one and a half times the second power of two. -/
def three : Finite := ⟨false, 3 * 2 ^ 51 + 1023 * 2 ^ 52, by decide⟩

theorem checks_exact_three :
    checkPageList (.obj [("pages", .arr [])]) pageListRoot = .ok ⟨[], none⟩ ∧
      Grammar.number (.num (.whole 3)) three ∧ three.units = 3 * twoTo 1074 := by
  have hofInt : Binary64.ofInt 3 = .finite three := by decide +kernel
  obtain ⟨hsmall, hnearest⟩ := Binary64.ofInt_eq_finite_iff.mp hofInt
  have hnumber : Grammar.number (.num (.whole 3)) three := .whole 3 three hsmall hnearest
  have hfields : PageListFields [("pages", .arr [])] ⟨[], none⟩ :=
    ⟨⟨.arr [], rfl, [], rfl, .nil⟩, .absent rfl⟩
  exact ⟨(checks_exact.1 _ _ _).mpr ⟨_, rfl, hfields⟩, hnumber,
    checks_exact.2.2 3 three hnumber ⟨three, by decide +kernel⟩⟩

/-- A page list with a node at a place that no binary number has. -/
def farPages : Json :=
  .obj [("pages", .arr [.obj [("pageId", .str "p"), ("pageName", .str "P"),
    ("diagram", .obj [("nodes", .arr [.obj [("sourceId", .str "a"), ("label", .str "A"),
      ("x", .int 9007199254740993)]]), ("edges", .arr []), ("sections", .arr []),
      ("stickyNotes", .arr [])])]])]

/-- The place is copied to its neighbour, which is not equal to it. -/
theorem farPages_rounded :
    (checkPageList farPages pageListRoot).toOption.map (fun list =>
      list.pages.map fun page => page.nodes.map fun node => node.x.map Finite.units) =
      some [[some (9007199254740992 * twoTo 1074 : Int)]] ∧
    (9007199254740992 * twoTo 1074 : Int) ≠ 9007199254740993 * twoTo 1074 := by
  decide +kernel

end Wire

end FlowBoard
