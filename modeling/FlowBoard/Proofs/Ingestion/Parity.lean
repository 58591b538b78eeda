import FlowBoard.Proofs.Ingestion.BoardWalk
import FlowBoard.Proofs.Ingestion.Canonical

/-!
# One board, one page

Both wire forms of a board pass their checks, and the pages that they give are equal, so that they
are rendered alike. A note in front of the text of a shape takes the place of its label in the tree,
as the first text in a shape counts; so this is asked of boards whose shapes have their own text
first.
-/

namespace FlowBoard

namespace Board

open FlowBoard.Tree Wire

theorem gathers_canvas {board : Board} (htexts : board.TextsFirst) :
    Gathers board.entries (gather none {} board.canvas) := by
  have hkind : board.canvas.item.kind = Item.canvasKind := rfl
  have hsection : board.canvas.item.kind ≠ Item.sectionKind := by rw [hkind]; decide
  have hshape : board.canvas.item.kind ≠ Item.shapeKind := by rw [hkind]; decide
  have hvisit := visit_of_other {} (v := ⟨board.canvas, none⟩) hsection hshape
  rw [gather_eq_gatherAll hsection, hvisit]
  exact Gathers.nil.append htexts board.nodup_shapes board.nodup_groups

/-- Before pruning already, the walk and the record give the same page. -/
theorem page_canvas {board : Board} (htexts : board.TextsFirst) :
    (gather none {} board.canvas).page board.pageId board.pageName = board.record.toPage := by
  have h := gathers_canvas htexts
  rw [Gathered.page, h.nodes, h.edges, h.sections, h.stickies, Keyed.values, Keyed.values,
    List.map_map, List.map_map]
  rfl

theorem pages_treeFile {board : Board} (htexts : board.TextsFirst) :
    board.treeFile.pages = board.pageList.pages.map fun page => page.toPage.prune := by
  have hname : Text.orElse board.canvas.item.cleanName ("Page " ++ toString 1) =
      board.pageName := by
    have hclean : board.canvas.item.cleanName = board.pageName := board.pageName.property.1
    rw [hclean, orElse_text]
  have hcanvases : board.treeFile.canvases = [board.canvas] := rfl
  have hpage : board.canvas.numberedPage 1 = board.record.toPage.prune := by
    rw [numberedPage, hname, Tree.page, ← page_canvas htexts]
    rfl
  rw [TreeFile.pages, hcanvases]
  exact congrArg ([·]) hpage

theorem checkTree_toJson (board : Board) :
    checkTree board.treeFile.toJson treeRoot = .ok board.treeFile := by
  have hdepth : board.treeFile.root.depth ≤ maxDepth :=
    Nat.le_trans board.depth_root_treeFile (by decide)
  rw [checkTree, TreeFile.ofJson_toJson hdepth]
  rfl

theorem checkPageList_toJson (board : Board) :
    checkPageList board.pageList.toJson pageListRoot = .ok board.pageList := by
  rw [checkPageList, PageList.ofJson_toJson]
  rfl

/-- The two forms of a board are accepted. If the text of every shape stands before all other texts
in it, they give equal pages, flowcharts and layout presets. -/
theorem tree_and_pageList_agree (board : Board) (htexts : board.TextsFirst)
    (treeKey listKey : String) :
    ∃ file list, checkTree board.treeFile.toJson treeRoot = .ok file ∧
      checkPageList board.pageList.toJson pageListRoot = .ok list ∧
      (Ingested.tree treeKey file).document.pages =
        (Ingested.structured listKey list).document.pages ∧
      ∀ direction layout, ∃ rendered,
        (Ingested.tree treeKey file).document.render direction layout = .ok rendered ∧
        (Ingested.structured listKey list).document.render direction layout = .ok rendered := by
  have hpages : (Ingested.tree treeKey board.treeFile).document.pages =
      (Ingested.structured listKey board.pageList).document.pages := pages_treeFile htexts
  refine ⟨board.treeFile, board.pageList, board.checkTree_toJson, board.checkPageList_toJson,
    hpages, fun direction layout => ?_⟩
  obtain ⟨rendered, hr⟩ :=
    (Ingested.tree treeKey board.treeFile).exists_render direction layout
  refine ⟨rendered, hr, ?_⟩
  rw [Document.render, ← hpages]
  exact hr

/-- A section with a note in it, two connectors, of which one leads to nothing, and a shape with
marks around its text. -/
def sampleBoard : Board where
  pageId := "1:0"
  pageName := ⟨"Flow", by decide⟩
  entries := [
    .part (.mark (.connector "c1" ⟨"a", by decide⟩ ⟨"b", by decide⟩ (some "ARROW_LINES") none
      (some ⟨"yes", by decide⟩))),
    .part (.shape {
      id := "a"
      label := ⟨"Start", by decide⟩
      front := [.connector "c3" ⟨"a", by decide⟩ ⟨"b", by decide⟩ none none none]
      back := [.note "m" ⟨"Entry", by decide⟩] }),
    .group {
      id := ⟨"s", by decide⟩
      name := ⟨"Steps", by decide⟩
      parts := [.mark (.note "n" ⟨"Check inputs", by decide⟩),
        .shape { id := "b", label := ⟨"Two words", by decide⟩, kind := some "DIAMOND" }] },
    .part (.mark (.connector "c2" ⟨"b", by decide⟩ ⟨"gone", by decide⟩ none none none))]
  nodup_shapes := by decide
  nodup_groups := by decide

def samplePage : Page where
  id := "1:0"
  name := "Flow"
  nodes := [{ id := "a", label := "Start" },
    { id := "b", label := "Two words", shape := some "DIAMOND", sectionId := some "s" }]
  edges := [{ source := "b", target := "a", label := some "yes", kind := "arrow" },
    { source := "a", target := "b", label := none, kind := "line" }]
  sections := [{ id := "s", label := "Steps", members := ["b"] }]
  stickies := [{ id := "m", text := "Entry" }, { id := "n", text := "Check inputs" }]

theorem sampleBoard_agrees : sampleBoard.TextsFirst ∧
    (Ingested.tree "key" sampleBoard.treeFile).document.pages = [samplePage] ∧
    ∃ file list, checkTree sampleBoard.treeFile.toJson treeRoot = .ok file ∧
      checkPageList sampleBoard.pageList.toJson pageListRoot = .ok list ∧
      (Ingested.tree "key" file).document.pages =
        (Ingested.structured "key" list).document.pages := by
  have htexts : sampleBoard.TextsFirst := by decide
  obtain ⟨file, list, htree, hlist, hpages, -⟩ :=
    tree_and_pageList_agree sampleBoard htexts "key" "key"
  exact ⟨htexts, by decide, file, list, htree, hlist, hpages⟩

/-- A shape with a note in front of its text. -/
def annotatedBoard : Board where
  pageId := "1:0"
  pageName := ⟨"Flow", by decide⟩
  entries := [.part (.shape {
    id := "a"
    label := ⟨"Start", by decide⟩
    front := [.note "n" ⟨"Check", by decide⟩] })]
  nodup_shapes := by decide
  nodup_groups := by decide

/-- Both forms are accepted, and the node has two labels. -/
theorem annotatedBoard_differs :
    checkTree annotatedBoard.treeFile.toJson treeRoot = .ok annotatedBoard.treeFile ∧
    checkPageList annotatedBoard.pageList.toJson pageListRoot = .ok annotatedBoard.pageList ∧
    (Ingested.tree "key" annotatedBoard.treeFile).document.pages.flatMap
        (fun page => page.nodes.map Node.label) = ["Check"] ∧
    (Ingested.structured "key" annotatedBoard.pageList).document.pages.flatMap
        (fun page => page.nodes.map Node.label) = ["Start"] ∧
    ¬(Ingested.tree "key" annotatedBoard.treeFile).document.pages =
      (Ingested.structured "key" annotatedBoard.pageList).document.pages :=
  ⟨annotatedBoard.checkTree_toJson, annotatedBoard.checkPageList_toJson, by decide, by decide,
    by decide⟩

end Board

end FlowBoard
