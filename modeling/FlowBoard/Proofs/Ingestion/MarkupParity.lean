import FlowBoard.Proofs.Ingestion.Canonical
import FlowBoard.Proofs.Ingestion.Transcription
import FlowBoard.Proofs.Mermaid.Unshown
import FlowBoard.Proofs.Wire.SparseForm

/-!
# One drawing, one page each

The markup of a drawing and its page list both pass the check. Pruning takes away what markup
leaves out, so both give the same pages, but for empty labels of edges and for the sections of
nodes; and as neither is shown, the flowcharts are the same.
-/

namespace FlowBoard

/-! ## Pruning what was transcribed -/

theorem Node.labelled_untagged (node : Node) :
    node.untagged.labelled = node.labelled.untagged := by
  have hlabel : node.untagged.label = node.label := rfl
  rw [labelled, labelled, hlabel]
  split_ifs <;> rfl

namespace Page

variable {page : Page}

theorem prunedNodes_untagged (h : page.nodeIds.Nodup) :
    page.untagged.prunedNodes = page.prunedNodes.map Node.untagged := by
  rw [prunedNodes_of_nodup (page.nodeIds_untagged ▸ h), prunedNodes_of_nodup h, untagged,
    List.map_map, List.map_map]
  exact List.map_congr_left fun node _ => node.labelled_untagged

/-- An empty text is no node id, so leaving it out of the members changes nothing. -/
theorem membersOf_nonemptyMembers (h : "" ∉ page.nodeIds) (group : Section) :
    page.membersOf (Wire.nonemptyMembers group) = page.membersOf group := by
  rw [membersOf, Wire.nonemptyMembers, distinct_filter, List.filter_filter, membersOf]
  refine List.filter_congr fun id _ => ?_
  by_cases hid : id = ""
  · have hnode : page.hasNode "" = false := by simpa [hasNode] using h
    rw [hid, hnode, Bool.false_and]
  · simp [hid]

theorem prunedStickies_nonempty (h : ∀ note ∈ page.stickies, Text.clean note.text = note.text) :
    ((page.stickies.filter fun note => !note.text.isEmpty).filter
      fun note => !Text.isBlankText note.text) = page.prunedStickies := by
  rw [List.filter_filter, prunedStickies]
  refine List.filter_congr fun note hn => ?_
  rw [Text.isBlankText_of_clean (h note hn), Bool.and_self]

end Page

namespace Wire.PageRecord

variable {r : PageRecord}

theorem nodeIds_transcribed (r : PageRecord) :
    r.transcribed.toPage.nodeIds = r.toPage.nodeIds := by
  simp only [Page.nodeIds, toPage, transcribed, List.map_map]
  rfl

theorem prune_untagged (hnodup : r.toPage.nodeIds.Nodup) :
    r.untagged.toPage.prune = r.toPage.prune.untagged := by
  have hpage : r.untagged.toPage = r.toPage.untagged := by
    simp only [toPage, untagged, Page.untagged, List.map_map]
    rfl
  have hnode : r.toPage.untagged.hasNode = r.toPage.hasNode := by
    funext id
    rw [Page.hasNode, Page.nodeIds_untagged, Page.hasNode]
  rw [hpage, Page.prune, Page.prunedNodes_untagged hnodup, Page.prunedEdges, Page.prunedSections]
  simp only [Page.membersOf, hnode]
  rfl

/-- What markup leaves out is not there after pruning, but for two things that are not shown. -/
theorem prune_transcribed (hnodup : r.toPage.nodeIds.Nodup) (hids : "" ∉ r.toPage.nodeIds)
    (hnotes : ∀ note ∈ r.stickies, Text.clean note.text = note.text) :
    r.transcribed.toPage.prune = r.toPage.prune.untagged.tidied := by
  have hnode : r.transcribed.toPage.hasNode = r.toPage.hasNode := by
    funext id
    rw [Page.hasNode, nodeIds_transcribed, Page.hasNode]
  have hnodes : r.transcribed.toPage.prunedNodes = r.toPage.prunedNodes.map Node.untagged := by
    rw [← Page.prunedNodes_untagged hnodup]
    simp only [Page.prunedNodes, Page.untagged, toPage, transcribed, List.map_map]
    rfl
  have hedges : r.transcribed.toPage.prunedEdges = r.toPage.prunedEdges.map Edge.tidied := by
    rw [Page.prunedEdges, hnode, Page.prunedEdges]
    have hmap : r.transcribed.toPage.edges = r.toPage.edges.map Edge.tidied := by
      simp only [toPage, transcribed, List.map_map]
      rfl
    rw [hmap, List.filter_map]
    rfl
  have hsections : r.transcribed.toPage.prunedSections = r.toPage.prunedSections := by
    have hmembers (group : Section) : r.transcribed.toPage.membersOf (nonemptyMembers group) =
        r.toPage.membersOf group := by
      rw [← Page.membersOf_nonemptyMembers hids group, Page.membersOf, hnode, Page.membersOf]
    rw [Page.prunedSections, Page.prunedSections]
    refine congrArg (List.filter _) ?_
    change (r.sections.map nonemptyMembers).map _ = r.sections.map _
    rw [List.map_map]
    refine List.map_congr_left fun group _ => ?_
    rw [Function.comp_apply, hmembers]
    rfl
  have hstickies : r.transcribed.toPage.prunedStickies = r.toPage.prunedStickies := by
    have hpage : ∀ note ∈ r.toPage.stickies, Text.clean note.text = note.text := hnotes
    exact Page.prunedStickies_nonempty hpage
  rw [Page.prune, hnodes, hedges, hsections, hstickies]
  rfl

end Wire.PageRecord

/-! ## Texts of pages -/

theorem Page.render_mermaid (page : Page) (direction : Option String) (layout : String) :
    (page.render direction layout).map RenderedPage.mermaid = page.mermaid direction := by
  rw [render]
  cases page.mermaid direction <;> rfl

theorem Document.render_mermaid (doc : Document) (direction : Option String) (layout : String) :
    (doc.render direction layout).map (·.map RenderedPage.mermaid) =
      doc.pages.mapM (Page.mermaid · direction) := by
  rw [Document.render]
  induction doc.pages with
  | nil => rfl
  | cons page rest ih =>
    rw [List.mapM_cons, List.mapM_cons, ← ih, ← page.render_mermaid direction layout]
    cases page.render direction layout with
    | error e => rfl
    | ok text =>
      cases rest.mapM (Page.render · direction layout) with
      | error e => rfl
      | ok rendered => rfl

namespace Ingested

/-- Pages that differ in what is not shown have the same texts. -/
theorem render_mermaid_map {key : String} {list other : Wire.PageList} {f : Page → Page}
    (hpages : (structured key list).pages = (structured key other).pages.map f)
    (hf : ∀ page direction, (f page).mermaid? direction = page.mermaid? direction)
    (direction : Option String) (layout : String) :
    ((structured key list).document.render direction layout).map (·.map RenderedPage.mermaid) =
      ((structured key other).document.render direction layout).map
        (·.map RenderedPage.mermaid) := by
  have hmermaid : (fun page : Page => page.mermaid direction) ∘ f = (·.mermaid direction) := by
    funext page
    rw [Function.comp_apply, Page.mermaid, hf, Page.mermaid]
  rw [Document.render_mermaid, Document.render_mermaid]
  change (structured key list).pages.mapM _ = (structured key other).pages.mapM _
  rw [hpages, List.mapM_map, hmermaid]

end Ingested

namespace Drawing

open Wire

theorem Sheet.nodeIds_record (sheet : Sheet) :
    sheet.record.toPage.nodeIds =
      (sheet.items.filterMap Item.shape?).map (·.id.val) := by
  simp only [Page.nodeIds, PageRecord.toPage, record, List.map_map]
  rfl

theorem Sheet.prune_transcribed (sheet : Sheet) :
    sheet.record.transcribed.toPage.prune = sheet.record.toPage.prune.untagged.tidied := by
  refine PageRecord.prune_transcribed (sheet.nodeIds_record ▸ sheet.nodup_shapes) ?_ ?_
  · rw [nodeIds_record]
    intro hempty
    obtain ⟨shape, _, hid⟩ := List.mem_map.mp hempty
    exact shape.id.property hid
  · intro note hn
    obtain ⟨n, _, rfl⟩ := List.mem_map.mp hn
    exact n.text.property

variable (drawing : Drawing) (frame : Frame) (key : String)

theorem pages_untagged :
    (Ingested.structured key drawing.pageList.untagged).pages =
      (Ingested.structured key drawing.pageList).pages.map Page.untagged := by
  simp only [Ingested.pages, pageList, PageList.untagged, List.map_map]
  refine List.map_congr_left fun sheet _ => ?_
  exact PageRecord.prune_untagged (sheet.nodeIds_record ▸ sheet.nodup_shapes)

theorem pages_transcoded :
    (Ingested.structured key (Canvas.pageList (Canvas.canvases (drawing.markup frame)))).pages =
      (Ingested.structured key drawing.pageList.untagged).pages.map Page.tidied := by
  rw [pages_untagged, Ingested.pages, pages_markup]
  simp only [Ingested.pages, pageList, List.map_map]
  exact List.map_congr_left fun sheet _ => sheet.prune_transcribed

theorem pages_tidied (h : drawing.NoEmptyLabel) :
    (Ingested.structured key drawing.pageList.untagged).pages.map Page.tidied =
      (Ingested.structured key drawing.pageList.untagged).pages := by
  rw [pages_untagged]
  simp only [Ingested.pages, pageList, List.map_map]
  refine List.map_congr_left fun sheet hs => ?_
  have hedges : sheet.record.toPage.prunedEdges.map Edge.tidied =
      sheet.record.toPage.prunedEdges := by
    refine (List.map_congr_left fun edge he => ?_).trans (List.map_id _)
    obtain ⟨r, hr, rfl⟩ := List.mem_map.mp (List.mem_of_mem_filter he)
    have hlabel := h sheet hs r hr
    cases hr : r.label with
    | none => simp [Edge.tidied, EdgeRecord.toEdge, hr]
    | some label =>
      have hne : label ≠ "" := fun he => hlabel (he ▸ hr)
      simp [Edge.tidied, EdgeRecord.toEdge, hr, Option.filter_some, hne]
  simp only [Function.comp_apply, Page.tidied, Page.untagged, Page.prune, hedges]

/-- The markup of a drawing is accepted and gives the pages of its page list with no section told of
any node, but that an empty label of an edge is none; and all flowcharts are the same, also of the
page list that tells the sections. -/
theorem markup_and_pageList_agree :
    Canvas.canvases (drawing.markup frame) ≠ [] ∧
    ∃ transcoded untagged tagged,
      checkPageList (Canvas.pageList (Canvas.canvases (drawing.markup frame))).sparseJson
        pageListRoot = .ok transcoded ∧
      checkPageList drawing.pageList.untagged.toJson pageListRoot = .ok untagged ∧
      checkPageList drawing.pageList.toJson pageListRoot = .ok tagged ∧
      (Ingested.structured key transcoded).document.pages =
        (Ingested.structured key untagged).document.pages.map Page.tidied ∧
      (drawing.NoEmptyLabel → (Ingested.structured key transcoded).document.pages =
        (Ingested.structured key untagged).document.pages) ∧
      ∀ direction layout, ∃ texts, ∀ list ∈ [transcoded, untagged, tagged],
        ((Ingested.structured key list).document.render direction layout).map
          (·.map RenderedPage.mermaid) = .ok texts := by
  have htranscoded := drawing.pages_transcoded frame key
  refine ⟨(drawing.canvases_markup frame).2, _, _, _, PageList.check_sparseJson _ _,
    PageList.check_toJson _ _, PageList.check_toJson _ _, htranscoded,
    fun h => htranscoded.trans (drawing.pages_tidied key h), fun direction layout => ?_⟩
  obtain ⟨rendered, hrendered⟩ :=
    (Ingested.structured key drawing.pageList).exists_render direction layout
  have htagged : ((Ingested.structured key drawing.pageList).document.render direction layout).map
      (·.map RenderedPage.mermaid) = .ok (rendered.map RenderedPage.mermaid) := by
    rw [hrendered]
    rfl
  have huntagged := (Ingested.render_mermaid_map (drawing.pages_untagged key)
    Page.mermaid?_untagged direction layout).trans htagged
  have hmarkup := (Ingested.render_mermaid_map htranscoded Page.mermaid?_tidied direction
    layout).trans huntagged
  refine ⟨rendered.map RenderedPage.mermaid, fun list hl => ?_⟩
  rcases List.mem_cons.mp hl with rfl | hl
  · exact hmarkup
  rcases List.mem_cons.mp hl with rfl | hl
  · exact huntagged
  obtain rfl := List.mem_singleton.mp hl
  exact htagged

/-- A connector stands before its shapes, of which one is in a section that also lists others. -/
def sampleDrawing : Drawing where
  sheets := [{
    id := ⟨"1:1", by decide⟩
    name := ⟨"Sketch", by decide⟩
    items := [
      .link { start := ⟨"p", by decide⟩, finish := ⟨"q", by decide⟩,
              startCap := some "ARROW_LINES", label := some ⟨"next", by decide⟩ },
      .group { id := ⟨"g", by decide⟩, name := ⟨"Plan", by decide⟩,
               members := [⟨"p", by decide⟩, ⟨"", by decide⟩, ⟨"gone", by decide⟩] },
      .shape { id := ⟨"p", by decide⟩, label := ⟨"Long label", by decide⟩,
               kind := some ⟨"DIAMOND", by decide⟩, x := some ⟨" 0.0", .zero, by decide⟩,
               sectionId := some "g" },
      .note { id := ⟨"m", by decide⟩, text := ⟨"", by decide⟩ },
      .shape { id := ⟨"q", by decide⟩, label := ⟨"Stop", by decide⟩ }]
    nodup_shapes := by decide }]
  nonempty := by decide

theorem sampleDrawing_agrees : sampleDrawing.NoEmptyLabel ∧
    ∃ transcoded untagged,
      checkPageList (Canvas.pageList (Canvas.canvases (sampleDrawing.markup .top))).sparseJson
        pageListRoot = .ok transcoded ∧
      checkPageList sampleDrawing.pageList.untagged.toJson pageListRoot = .ok untagged ∧
      (Ingested.structured "key" transcoded).document.pages =
        (Ingested.structured "key" untagged).document.pages := by
  have hlabels : sampleDrawing.NoEmptyLabel := by decide
  obtain ⟨_, transcoded, untagged, _, htranscoded, huntagged, _, _, hpages, _⟩ :=
    markup_and_pageList_agree sampleDrawing .top "key"
  exact ⟨hlabels, transcoded, untagged, htranscoded, huntagged, hpages hlabels⟩

/-- A connector with a label that is there but empty. -/
def blankLabelDrawing : Drawing where
  sheets := [{
    id := ⟨"1:2", by decide⟩
    name := ⟨"Sketch", by decide⟩
    items := [
      .shape { id := ⟨"p", by decide⟩, label := ⟨"P", by decide⟩ },
      .link { start := ⟨"p", by decide⟩, finish := ⟨"p", by decide⟩,
              label := some ⟨"", by decide⟩ }]
    nodup_shapes := by decide }]
  nonempty := by decide

/-- An empty label stays in a page list, and markup does not tell it from none. -/
theorem blankLabelDrawing_differs : ∃ transcoded untagged,
    checkPageList (Canvas.pageList (Canvas.canvases (blankLabelDrawing.markup .top))).sparseJson
      pageListRoot = .ok transcoded ∧
    checkPageList blankLabelDrawing.pageList.untagged.toJson pageListRoot = .ok untagged ∧
    (Ingested.structured "key" transcoded).document.pages ≠
      (Ingested.structured "key" untagged).document.pages :=
  ⟨_, _, PageList.check_sparseJson _ _, PageList.check_toJson _ _, by decide⟩

end Drawing

end FlowBoard
