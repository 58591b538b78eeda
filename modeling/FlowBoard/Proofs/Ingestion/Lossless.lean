import FlowBoard.Payload
import FlowBoard.Proofs.Ingestion.Canonical
import FlowBoard.Proofs.Wire.RoundTrip

/-!
# Page lists carry pages

Pages that are checked can be written as a page list. When it is taken as a structured payload, the
document has those pages in order, each pruned, and the same file name; so canonical pages come back
as they were.
-/

namespace FlowBoard

/-! ## Writing pages -/

def Node.wireJson (node : Node) : Json :=
  .obj [("sourceId", .str node.id), ("label", .str node.label),
    ("shapeType", .ofString? node.shape), ("x", .ofNumber? node.x), ("y", .ofNumber? node.y),
    ("sectionId", .ofString? node.sectionId)]

def Edge.wireJson (edge : Edge) : Json :=
  .obj [("sourceId", .str edge.source), ("targetId", .str edge.target),
    ("label", .ofString? edge.label), ("kind", .str edge.kind)]

def Page.wireJson (page : Page) : Json :=
  .obj [("pageId", .str page.id), ("pageName", .str page.name),
    ("diagram", .obj [("nodes", .arr (page.nodes.map Node.wireJson)),
      ("edges", .arr (page.edges.map Edge.wireJson)),
      ("sections", .arr (page.sections.map Wire.sectionJson)),
      ("stickyNotes", .arr (page.stickies.map Wire.stickyJson))])]

/-- The page list of pages and of a file that may have a name. -/
def pageListJson (fileName : Option String) (pages : List Page) : Json :=
  .obj [("fileName", .ofString? fileName), ("pages", .arr (pages.map Page.wireJson))]

/-! ## Records of pages -/

theorem exists_map_eq {α β γ : Type} {as : List α} {f : β → α} {g : β → γ} {h : α → γ}
    (hex : ∀ a ∈ as, ∃ b, f b = a ∧ g b = h a) :
    ∃ bs : List β, bs.map f = as ∧ bs.map g = as.map h := by
  induction as with
  | nil => exact ⟨[], rfl, rfl⟩
  | cons a rest ih =>
    obtain ⟨b, hf, hg⟩ := hex a List.mem_cons_self
    obtain ⟨bs, hfs, hgs⟩ := ih fun c hc => hex c (List.mem_cons_of_mem a hc)
    exact ⟨b :: bs, by rw [List.map_cons, hf, hfs], by rw [List.map_cons, hg, hgs, List.map_cons]⟩

namespace Wire

theorem exists_finite {coordinate : Option Number}
    (h : ∀ n, coordinate = some n → ∃ x : Finite, n = .binary (.finite x)) :
    ∃ x : Option Finite, (x.map fun x => Number.binary (.finite x)) = coordinate ∧
      finiteOrNull x = .ofNumber? coordinate := by
  cases coordinate with
  | none => exact ⟨none, rfl, rfl⟩
  | some n =>
    obtain ⟨x, rfl⟩ := h n rfl
    exact ⟨some x, rfl, rfl⟩

theorem exists_nodeRecord {node : Node}
    (h : ∀ n, node.x = some n ∨ node.y = some n → ∃ x : Finite, n = .binary (.finite x)) :
    ∃ r : NodeRecord, r.toNode = node ∧ r.toJson = node.wireJson := by
  obtain ⟨x, hx, hxJson⟩ := exists_finite fun n hn => h n (.inl hn)
  obtain ⟨y, hy, hyJson⟩ := exists_finite fun n hn => h n (.inr hn)
  refine ⟨⟨node.id, node.label, node.shape, x, y, node.sectionId⟩, ?_, ?_⟩
  · rw [NodeRecord.toNode, hx, hy]
  · rw [NodeRecord.toJson, hxJson, hyJson]
    rfl

theorem exists_edgeRecord {edge : Edge} (h : edge.kind ∈ EdgeKind.all.map EdgeKind.name) :
    ∃ r : EdgeRecord, r.toEdge = edge ∧ r.toJson = edge.wireJson := by
  obtain ⟨kind, _, hkind⟩ := List.mem_map.mp h
  refine ⟨⟨edge.source, edge.target, edge.label, kind⟩, ?_, ?_⟩
  · rw [EdgeRecord.toEdge, hkind]
  · rw [EdgeRecord.toJson, hkind]
    rfl

/-- A checked page has a record, which is written like the page. -/
theorem exists_pageRecord {page : Page} (h : page.Checked) :
    ∃ r : PageRecord, r.toPage = page ∧ r.toJson = page.wireJson := by
  obtain ⟨nodes, hnodes, hnodesJson⟩ := exists_map_eq (f := NodeRecord.toNode)
    (g := NodeRecord.toJson) fun node hn => exists_nodeRecord (h.finite node hn)
  obtain ⟨edges, hedges, hedgesJson⟩ := exists_map_eq (f := EdgeRecord.toEdge)
    (g := EdgeRecord.toJson) fun edge he => exists_edgeRecord (h.kinds edge he)
  refine ⟨⟨page.id, page.name, nodes, edges, page.sections, page.stickies⟩, ?_, ?_⟩
  · rw [PageRecord.toPage, hnodes, hedges]
  · rw [PageRecord.toJson, hnodesJson, hedgesJson]
    rfl

end Wire

/-! ## Taking the page list -/

open Wire in
theorem ofJson_pageListJson (records : List PageRecord) (fileName : Option String) :
    PageList.ofJson (.obj [("fileName", .ofString? fileName),
      ("pages", .arr (records.map PageRecord.toJson))]) = .ok ⟨records, fileName⟩ := by
  refine bind_eq_ok rfl ?_
  refine bind_eq_ok (required_eq_ok rfl (list_map fun record _ => pageRecord_toJson record)) ?_
  refine bind_eq_ok (optional_text_eq_ok rfl) ?_
  rfl

namespace Payload

theorem ingest_pageListJson {pages : List Page} (h : ∀ page ∈ pages, page.Checked)
    (fileName : Option String) (fileKey : String) :
    (ingest { data := pageListJson fileName pages } fileKey .structured).map Ingested.document =
      .ok { sourceKind := WireForm.structured.name, fileKey, fileName,
            pages := pages.map Page.prune } := by
  obtain ⟨records, hpages, hjson⟩ := exists_map_eq (f := Wire.PageRecord.toPage)
    (g := Wire.PageRecord.toJson) fun page hp => Wire.exists_pageRecord (h page hp)
  have hcheck : checkPageList (pageListJson fileName pages) pageListRoot =
      .ok ⟨records, fileName⟩ := by
    rw [checkPageList, pageListJson, ← hjson, ofJson_pageListJson]
    rfl
  have hingest : ingest { data := pageListJson fileName pages } fileKey .structured =
      .ok (.structured fileKey ⟨records, fileName⟩) := by
    refine Wire.bind_eq_ok rfl ?_
    refine Wire.bind_eq_ok hcheck ?_
    rfl
  rw [hingest, ← hpages, List.map_map]
  rfl

/-- Checked pages that are written as a page list come back pruned, and canonical ones as they
were. -/
theorem pageListJson_lossless {pages : List Page} (h : ∀ page ∈ pages, page.Checked)
    (fileName : Option String) (fileKey : String) :
    (ingest { data := pageListJson fileName pages } fileKey .structured).map Ingested.document =
        .ok { sourceKind := WireForm.structured.name, fileKey, fileName,
              pages := pages.map Page.prune } ∧
      ((∀ page ∈ pages, page.Canonical) →
        (ingest { data := pageListJson fileName pages } fileKey .structured).map
          Ingested.document =
          .ok { sourceKind := WireForm.structured.name, fileKey, fileName, pages }) := by
  have hdocument := ingest_pageListJson h fileName fileKey
  refine ⟨hdocument, fun hcanonical => ?_⟩
  have hpruned : pages.map Page.prune = pages := by
    refine (List.map_congr_left fun page hp => ?_).trans (List.map_id pages)
    rw [(hcanonical page hp).prune_eq]
    rfl
  rw [hdocument, hpruned]

/-- A canonical page with a value in every field. -/
def placedPage : Page where
  id := "0:1"
  name := "Flow"
  nodes := [{ id := "a", label := "Start", shape := some "ELLIPSE",
              x := some (.binary (.finite .zero)), y := some (.binary (.finite .zero)) },
    { id := "b", label := "End", sectionId := some "s" }]
  edges := [{ source := "a", target := "b", label := some "go", kind := EdgeKind.line.name }]
  sections := [{ id := "s", label := "Outer", members := ["b"] }]
  stickies := [{ id := "n", text := "Note" }]

theorem checked_placedPage : placedPage.Checked where
  kinds := by decide
  finite node hn n hxy := by
    rcases List.mem_cons.mp hn with rfl | hn
    · exact ⟨.zero, hxy.elim (fun h => (Option.some.inj h).symm) fun h => (Option.some.inj h).symm⟩
    · obtain rfl := List.mem_singleton.mp hn
      exact hxy.elim nofun nofun

theorem placedPage_lossless :
    (ingest { data := pageListJson (some "File") [placedPage] } "key" .structured).map
      Ingested.document =
      .ok { sourceKind := WireForm.structured.name, fileKey := "key", fileName := some "File",
            pages := [placedPage] } := by
  have hchecked : ∀ page ∈ [placedPage], page.Checked := by
    intro page hp
    obtain rfl := List.mem_singleton.mp hp
    exact checked_placedPage
  refine (pageListJson_lossless hchecked (some "File") "key").2 fun page hp => ?_
  obtain rfl := List.mem_singleton.mp hp
  exact ⟨by decide, by decide, by decide, by decide, by decide⟩

end Payload

end FlowBoard
