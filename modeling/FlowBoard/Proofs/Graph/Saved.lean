import FlowBoard.Graph.File
import FlowBoard.Proofs.Json.Reread
import FlowBoard.Proofs.Machine.Files

/-!
# Saved documents load back

Every record is dumped with the fields of its form, so it is read with all of them and goes back to
the typed record. The text of a document is readable JSON, and a file that it is written to holds
nothing else.
-/

namespace FlowBoard

theorem mapM_map_pure {m : Type → Type} [Monad m] [LawfulMonad m] {α β γ : Type} {f : α → β}
    {g : β → m γ} {h : α → γ} (hg : ∀ a, g (f a) = pure (h a)) (items : List α) :
    (items.map f).mapM g = pure (items.map h) := by
  have hcomp : g ∘ f = fun a => pure (h a) := funext hg
  rw [List.mapM_map, hcomp, List.mapM_pure]

theorem mapM_map_id {α β : Type} {f : α → β} {g : β → Option α} (hg : ∀ a, g (f a) = some a)
    (items : List α) : (items.map f).mapM g = some items := by
  have h := mapM_map_pure (m := Option) (h := fun a => a) hg items
  rwa [List.map_id'] at h

/-! ## Records -/

namespace RecordForm

/-- A record with the fields of the form is read as it is. -/
theorem read_obj {form : RecordForm} {record : Record}
    (hkeys : form.fields.map Prod.fst = Keyed.keys record) (hnodup : (Keyed.keys record).Nodup) :
    form.read (.obj record) = .ok record := by
  have hfound : ∀ field ∈ form.fields, ∃ v, Keyed.find? field.1 record = some v := by
    intro field hfield
    have hkey : field.1 ∈ Keyed.keys record := hkeys ▸ List.mem_map_of_mem hfield
    obtain ⟨e, he, hfst⟩ := List.mem_map.mp hkey
    exact ⟨e.2, hfst ▸ Keyed.find?_of_mem hnodup he⟩
  have hmissing : form.missing record = [] := by
    rw [missing, List.filterMap_eq_nil_iff]
    intro field hfield
    obtain ⟨v, hv⟩ := hfound field hfield
    simp [hv]
  have hfields : (form.fields.map fun field =>
      (field.1, (Keyed.find? field.1 record).getD (field.2.getD .null))) = record :=
    calc (form.fields.map fun field =>
          (field.1, (Keyed.find? field.1 record).getD (field.2.getD .null)))
        = form.fields.map fun field => (field.1, (Keyed.find? field.1 record).getD .null) := by
          refine List.map_congr_left fun field hfield => ?_
          obtain ⟨v, hv⟩ := hfound field hfield
          rw [hv]
          rfl
      _ = (Keyed.keys record).map fun key => (key, (Keyed.find? key record).getD .null) := by
          rw [← hkeys, List.map_map]
          rfl
      _ = record.map id := by
          rw [Keyed.keys, List.map_map]
          refine List.map_congr_left fun e he => ?_
          rw [Function.comp, Keyed.find?_of_mem hnodup he]
          rfl
      _ = record := List.map_id record
  rw [read, hmissing, hfields]
  rfl

end RecordForm

theorem read_node (node : Node) : nodeForm.read (.obj node.record) = .ok node.record :=
  RecordForm.read_obj rfl (by simp [Node.record, Keyed.keys])

theorem read_edge (edge : Edge) : edgeForm.read (.obj edge.record) = .ok edge.record :=
  RecordForm.read_obj rfl (by simp [Edge.record, Keyed.keys])

theorem read_section (group : Section) : sectionForm.read (.obj group.record) = .ok group.record :=
  RecordForm.read_obj rfl (by simp [Section.record, Keyed.keys])

theorem read_sticky (note : StickyNote) : stickyForm.read (.obj note.record) = .ok note.record :=
  RecordForm.read_obj rfl (by simp [StickyNote.record, Keyed.keys])

@[simp] theorem textOrNull?_ofString? (s : Option String) :
    (Json.ofString? s).textOrNull? = some s := by
  cases s <;> rfl

@[simp] theorem numberOrNull?_ofNumber? (n : Option Number) :
    (Json.ofNumber? n).numberOrNull? = some n := by
  cases n <;> rfl

theorem node?_record (node : Node) : node.record.node? = some node := by
  simp [Record.node?, Node.record, Keyed.find?, Json.text?]

theorem edge?_record (edge : Edge) : edge.record.edge? = some edge := by
  simp [Record.edge?, Edge.record, Keyed.find?, Json.text?]

theorem section?_record (group : Section) : group.record.section? = some group := by
  have hmembers : (Json.arr (group.members.map .str)).texts? = some group.members :=
    mapM_map_id (g := Json.text?) (fun _ => rfl) group.members
  simp [Record.section?, Section.record, Keyed.find?, Json.text?, hmembers]

theorem sticky?_record (note : StickyNote) : note.record.sticky? = some note := by
  simp [Record.sticky?, StickyNote.record, Keyed.find?, Json.text?]

/-! ## Pages and documents -/

theorem readRecords_arr {form : RecordForm} {α : Type} {record : α → Record}
    (hread : ∀ a, form.read (.obj (record a)) = .ok (record a)) (items : List α) {key : String}
    {fields : Json.Fields}
    (hfield : Keyed.find? key fields = some (.arr ((items.map record).map .obj))) :
    readRecords form key fields = .ok (items.map record) := by
  rw [readRecords, Json.elementsAt, hfield, List.map_map]
  exact mapM_map_pure hread items

namespace Page

theorem ofJson_toJson (page : Page) : StoredPage.ofJson page.toJson = .ok page.stored := by
  simp only [toJson, StoredPage.toJson, stored, StoredPage.ofJson]
  rw [readRecords_arr read_node page.nodes (by simp [Keyed.find?]),
    readRecords_arr read_edge page.edges (by simp [Keyed.find?]),
    readRecords_arr read_section page.sections (by simp [Keyed.find?]),
    readRecords_arr read_sticky page.stickies (by simp [Keyed.find?])]
  rfl

theorem typed?_stored (page : Page) : page.stored.typed? = some page := by
  simp [StoredPage.typed?, stored, Json.text?, mapM_map_id node?_record, mapM_map_id edge?_record,
    mapM_map_id section?_record, mapM_map_id sticky?_record]

end Page

namespace Document

/-- The dump of a document is read as its stored form. -/
theorem ofJson_toJson (doc : Document) : StoredDocument.ofJson doc.toJson = .ok doc.stored := by
  have hpages : ((doc.pages.map Page.stored).map StoredPage.toJson).mapM StoredPage.ofJson =
      Except.ok (doc.pages.map Page.stored) := by
    rw [List.map_map]
    exact mapM_map_pure Page.ofJson_toJson doc.pages
  have hkey : Json.elementsAt "pages" [("source_kind", doc.stored.sourceKind),
      ("file_key", doc.stored.fileKey), ("file_name", doc.stored.fileName),
      ("pages", .arr (doc.stored.pages.map StoredPage.toJson)),
      ("schema_version", .str schemaVersion)] =
        .ok ((doc.pages.map Page.stored).map StoredPage.toJson) := by
    simp [Json.elementsAt, Keyed.find?, Json.elements, stored]
  rw [toJson, StoredDocument.toJson, StoredDocument.ofJson, hkey]
  simp only [Except.bind, bind, hpages]
  simp [Keyed.find?, stored]
  rfl

theorem typed?_stored (doc : Document) : doc.stored.typed? = some doc := by
  simp [StoredDocument.typed?, stored, Json.text?, mapM_map_id Page.typed?_stored]

/-! ## The text -/

/-- No whole coordinate has more digits than are read. -/
def Readable (doc : Document) : Prop :=
  ∀ page ∈ doc.pages, ∀ node ∈ page.nodes,
    (∀ n ∈ node.x, n.Readable) ∧ ∀ n ∈ node.y, n.Readable

instance (doc : Document) : Decidable doc.Readable :=
  inferInstanceAs (Decidable (∀ page ∈ doc.pages, ∀ node ∈ page.nodes, _ ∧ _))

end Document

theorem readable_ofString? (s : Option String) : (Json.ofString? s).Readable := by
  cases s with
  | none => exact .null
  | some s => exact .str s

theorem readable_records {records : List Record}
    (h : ∀ record ∈ records, (Json.obj record).Readable) :
    (Json.arr (records.map .obj)).Readable := by
  refine .arr fun v hv => ?_
  obtain ⟨record, hrecord, rfl⟩ := List.mem_map.mp hv
  exact h record hrecord

theorem readable_fields {fields : Json.Fields} (hkeys : fields.keys.Nodup)
    (h : ∀ v ∈ fields.values, v.Readable) : (Json.obj fields).Readable :=
  .obj hkeys fun field hf => h field.2 (List.mem_map_of_mem hf)

theorem readable_ofNumber? {n : Option Number} (h : ∀ k ∈ n, k.Readable) :
    (Json.ofNumber? n).Readable := by
  cases n with
  | none => exact .null
  | some k => exact .num (h k rfl)

theorem readable_node {node : Node} (hx : ∀ n ∈ node.x, n.Readable)
    (hy : ∀ n ∈ node.y, n.Readable) : (Json.obj node.record).Readable := by
  refine readable_fields (by simp [Node.record, Keyed.keys]) ?_
  simp only [Node.record, Keyed.values, List.map_cons, List.map_nil, List.forall_mem_cons]
  exact ⟨.str _, .str _, readable_ofString? _, readable_ofNumber? hx, readable_ofNumber? hy,
    readable_ofString? _, List.forall_mem_nil _⟩

theorem readable_edge (edge : Edge) : (Json.obj edge.record).Readable := by
  refine readable_fields (by simp [Edge.record, Keyed.keys]) ?_
  simp only [Edge.record, Keyed.values, List.map_cons, List.map_nil, List.forall_mem_cons]
  exact ⟨.str _, .str _, readable_ofString? _, .str _, List.forall_mem_nil _⟩

theorem readable_section (group : Section) : (Json.obj group.record).Readable := by
  have hmembers : (Json.arr (group.members.map .str)).Readable := by
    refine .arr fun v hv => ?_
    obtain ⟨s, -, rfl⟩ := List.mem_map.mp hv
    exact .str s
  refine readable_fields (by simp [Section.record, Keyed.keys]) ?_
  simp only [Section.record, Keyed.values, List.map_cons, List.map_nil, List.forall_mem_cons]
  exact ⟨.str _, .str _, hmembers, List.forall_mem_nil _⟩

theorem readable_sticky (note : StickyNote) : (Json.obj note.record).Readable := by
  refine readable_fields (by simp [StickyNote.record, Keyed.keys]) ?_
  simp only [StickyNote.record, Keyed.values, List.map_cons, List.map_nil, List.forall_mem_cons]
  exact ⟨.str _, .str _, List.forall_mem_nil _⟩

theorem readable_page {page : Page}
    (h : ∀ node ∈ page.nodes, (∀ n ∈ node.x, n.Readable) ∧ ∀ n ∈ node.y, n.Readable) :
    page.toJson.Readable := by
  refine readable_fields (by simp [Keyed.keys]) ?_
  simp only [Page.stored, Keyed.values, List.map_cons, List.map_nil, List.forall_mem_cons]
  refine ⟨.str _, .str _, readable_records ?_, readable_records ?_, readable_records ?_,
    readable_records ?_, List.forall_mem_nil _⟩
  · intro record hrecord
    obtain ⟨node, hnode, rfl⟩ := List.mem_map.mp hrecord
    exact readable_node (h node hnode).1 (h node hnode).2
  · intro record hrecord
    obtain ⟨edge, -, rfl⟩ := List.mem_map.mp hrecord
    exact readable_edge edge
  · intro record hrecord
    obtain ⟨group, -, rfl⟩ := List.mem_map.mp hrecord
    exact readable_section group
  · intro record hrecord
    obtain ⟨note, -, rfl⟩ := List.mem_map.mp hrecord
    exact readable_sticky note

namespace Document

theorem Readable.toJson {doc : Document} (h : doc.Readable) : doc.toJson.Readable := by
  have hpages : (Json.arr ((doc.pages.map Page.stored).map StoredPage.toJson)).Readable := by
    refine .arr fun v hv => ?_
    rw [List.map_map] at hv
    obtain ⟨page, hpage, rfl⟩ := List.mem_map.mp hv
    exact readable_page (h page hpage)
  refine readable_fields (by simp [Keyed.keys]) ?_
  simp only [stored, Keyed.values, List.map_cons, List.map_nil, List.forall_mem_cons]
  exact ⟨.str _, .str _, readable_ofString? _, hpages, .str _, List.forall_mem_nil _⟩

theorem toList_fileText (doc : Document) :
    doc.stored.fileText.toList = Json.chars (.indented 0) doc.toJson ++ ['\n'] := by
  rw [StoredDocument.fileText, String.toList_append, Json.pretty, String.toList_ofList]
  rfl

theorem plain_fileText (doc : Document) : Json.Plain doc.stored.fileText.toList := by
  rw [toList_fileText]
  exact Json.plain_append.mpr ⟨Json.plain_chars _ _ _, rfl⟩

theorem Readable.standIns_fileText {doc : Document} (h : doc.Readable) :
    Json.standIns doc.stored.fileText.toList = {} := by
  rw [toList_fileText]
  exact h.toJson.standIns_chars (.indented 0) (List.forall_mem_singleton.mpr rfl)

theorem Readable.read_fileText {doc : Document} (h : doc.Readable) :
    StoredDocument.read doc.stored.fileText = .ok doc.stored := by
  have hvalue : Json.read doc.stored.fileText = .ok doc.toJson := by
    rw [Json.read, toList_fileText]
    exact h.toJson.readChars_chars (.indented 0) (List.forall_mem_singleton.mpr rfl)
  rw [StoredDocument.read, hvalue]
  change StoredDocument.check doc.toJson = _
  rw [StoredDocument.check, ofJson_toJson]
  rfl

/-! ## Files -/

theorem Readable.load {doc : Document} (h : doc.Readable) {path : Path} {m m' : Machine}
    (hsave : StoredDocument.save doc.stored path m = (.ok (), m')) :
    StoredDocument.load path m' = (.ok doc.stored, m') := by
  have hreturn : '\r' ∉ doc.stored.fileText.toList :=
    fun hmem => absurd (Json.plain_iff.mp doc.plain_fileText _ hmem) (by decide)
  have hread := Run.readText_of_writeText hsave hreturn
  rw [StoredDocument.load, Run.bind_of_ok hread, h.read_fileText]
  rfl

/-- What becomes of a document that is dumped or saved. `stored` is the document as it is loaded,
with a JSON value for each field, and `typed?` goes back to the typed one. -/
structure LoadsBack (doc : Document) : Prop where
  dumped : StoredDocument.ofJson doc.toJson = .ok doc.stored
  typed : doc.stored.typed? = some doc
  plain : Json.Plain doc.stored.fileText.toList
  newline : doc.stored.fileText.toList.getLast? = some '\n'
  text : StoredDocument.read doc.stored.fileText = .ok doc.stored
  file : ∀ path m m', StoredDocument.save doc.stored path m = (.ok (), m') →
    StoredDocument.load path m' = (.ok doc.stored, m')
  named : ∀ name (m : Machine), IsFileName name → m.files.Takes name →
    StoredDocument.save doc.stored (Path.ofString name) m =
      (.ok (), m.withFile name doc.stored.fileText)

/-- A document whose whole coordinates are not too long loads back from its dump, from its text and
from every file that it was saved to. -/
theorem Readable.loadsBack {doc : Document} (h : doc.Readable) : doc.LoadsBack where
  dumped := doc.ofJson_toJson
  typed := doc.typed?_stored
  plain := doc.plain_fileText
  newline := by rw [toList_fileText, List.getLast?_concat]
  text := h.read_fileText
  file := fun _ _ _ hsave => h.load hsave
  named := fun _ _ hname htakes => (Run.writeText_eq_ok_iff hname).mpr ⟨htakes, rfl⟩

/-- Quotes, control characters and characters beyond the basic plane, and coordinates of both kinds
and none. -/
def manifold : Document where
  sourceKind := "tree"
  fileKey := "a\"b\\c"
  fileName := some "\t\u007F\u2028😀"
  pages := [{
    id := "0:1", name := ""
    nodes := [
      { id := "1", label := "\r\n", shape := some "DIAMOND", x := some (.whole (-7)),
        y := some (.binary (Binary64.ofDecimal true 1 (-1))) },
      { id := "2", label := "two", y := some (.binary (Binary64.ofDecimal false 5 (-324))),
        sectionId := some "s" }]
    edges := [{ source := "1", target := "2", label := some "é", kind := "line" }]
    sections := [{ id := "s", label := "S", members := ["2", "2"] }]
    stickies := [{ id := "n", text := "note" }] }]

theorem manifold_loadsBack : manifold.Readable ∧ manifold.LoadsBack := by
  have h : manifold.Readable := by decide
  exact ⟨h, h.loadsBack⟩

end Document

end FlowBoard
