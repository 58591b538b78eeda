import FlowBoard.Ingested
import FlowBoard.Proofs.Graph.Pruning
import FlowBoard.Proofs.Mermaid.Direction
import FlowBoard.Proofs.Tree.Walk
import FlowBoard.Rendering

/-!
# Ingested documents are canonical

`Page.Checked` says that the kinds of edges are words that ingestion knows and that coordinates are
finite. Records carry this from the wire, a walk gathers nothing else, and pruning keeps it; so the
pages of a document in either wire form are canonical and checked, pruning them again changes
nothing, and they can be rendered.
-/

namespace FlowBoard

namespace Page

/-- Edges are of a known kind, and every coordinate that is there is a finite binary number. -/
structure Checked (page : Page) : Prop where
  kinds : ∀ edge ∈ page.edges, edge.kind ∈ EdgeKind.all.map EdgeKind.name
  finite : ∀ node ∈ page.nodes, ∀ n, node.x = some n ∨ node.y = some n →
    ∃ x : Finite, n = .binary (.finite x)

theorem checked_prune {page : Page} (h : page.Checked) : page.prune.Checked where
  kinds edge he := h.kinds edge (List.mem_of_mem_filter he)
  finite node hn n hxy := by
    obtain ⟨original, ho, rfl⟩ := exists_of_mem_prunedNodes hn
    rw [Node.labelled_x, Node.labelled_y] at hxy
    exact h.finite original ho n hxy

end Page

theorem EdgeKind.name_mem (kind : EdgeKind) : kind.name ∈ EdgeKind.all.map EdgeKind.name := by
  apply List.mem_map_of_mem
  cases kind <;> decide

/-- A coordinate that is taken from an optional finite number is finite. -/
theorem finite_of_map {coordinate : Option Finite} {n : Number}
    (h : (coordinate.map fun x => Number.binary (.finite x)) = some n) :
    ∃ x : Finite, n = .binary (.finite x) := by
  obtain ⟨x, _, rfl⟩ := Option.map_eq_some_iff.mp h
  exact ⟨x, rfl⟩

theorem Wire.PageRecord.checked_toPage (r : Wire.PageRecord) : r.toPage.Checked where
  kinds edge he := by
    obtain ⟨record, _, rfl⟩ := List.mem_map.mp he
    exact record.kind.name_mem
  finite node hn n hxy := by
    obtain ⟨record, _, rfl⟩ := List.mem_map.mp hn
    exact hxy.elim finite_of_map finite_of_map

namespace Tree

theorem shapeNode_finite (sectionId : Option String) (tree : Tree) (n : Number)
    (h : (tree.shapeNode sectionId).x = some n ∨ (tree.shapeNode sectionId).y = some n) :
    ∃ x : Finite, n = .binary (.finite x) := by
  rcases h with h | h
  · obtain ⟨box, _, rfl⟩ := Option.map_eq_some_iff.mp h
    exact ⟨box.x, rfl⟩
  · obtain ⟨box, _, rfl⟩ := Option.map_eq_some_iff.mp h
    exact ⟨box.y, rfl⟩

theorem connectorEdge?_kind {tree : Tree} {edge : Edge} (h : tree.connectorEdge? = some edge) :
    ∃ kind : EdgeKind, edge.kind = kind.name := by
  simp only [connectorEdge?, Option.bind_eq_bind, Option.bind_eq_some_iff, Option.pure_def] at h
  obtain ⟨first, _, last, _, he⟩ := h
  cases he
  exact ⟨_, rfl⟩

end Tree

/-- Whatever a walk gathers is checked. -/
theorem Summary.checked_page {vs : List Visit} {out : Gathered} (h : Summary vs out)
    (id name : String) : (out.page id name).Checked where
  kinds edge he := by
    have hmem : edge ∈ vs.filterMap Visit.edge? := h.edges ▸ he
    obtain ⟨v, _, hv⟩ := List.mem_filterMap.mp hmem
    rw [Visit.edge?] at hv
    split_ifs at hv
    obtain ⟨kind, hkind⟩ := Tree.connectorEdge?_kind hv
    exact hkind ▸ kind.name_mem
  finite node hn n hxy := by
    have hmem : node ∈ lastNodes (Visit.nodes vs) := by
      rw [← values_ofList_nodes, ← h.nodes]
      exact hn
    obtain ⟨v, _, hv⟩ := List.mem_filterMap.mp (mem_of_mem_lastNodes hmem)
    rw [Visit.node?] at hv
    split_ifs at hv
    cases hv
    exact Tree.shapeNode_finite _ _ n hxy

theorem Tree.exists_checked (tree : Tree) (id name : String) :
    ∃ page : Page, page.Checked ∧ tree.page id name = page.prune :=
  ⟨_, (Summary.gather tree).checked_page id name, rfl⟩

namespace Ingested

/-- Both wire forms end with the pruning of a checked page. -/
theorem exists_checked {i : Ingested} {page : Page} (h : page ∈ i.document.pages) :
    ∃ raw : Page, raw.Checked ∧ page = raw.prune := by
  cases i with
  | tree key file =>
    change page ∈ file.pages at h
    rw [TreeFile.pages] at h
    split_ifs at h
    · obtain rfl := List.mem_singleton.mp h
      exact file.root.exists_checked _ _
    · obtain ⟨⟨canvas, number⟩, _, rfl⟩ := List.mem_map.mp h
      exact canvas.exists_checked _ _
  | structured key list =>
    obtain ⟨record, _, rfl⟩ := List.mem_map.mp h
    exact ⟨record.toPage, record.checked_toPage, rfl⟩

/-- The pages of an ingested document are canonical and checked, and stay when they are pruned. -/
theorem canonical_pages (i : Ingested) : ∀ page ∈ i.document.pages,
    page.Canonical ∧ page.Checked ∧ page.prune = page := by
  intro page hp
  obtain ⟨raw, hraw, rfl⟩ := exists_checked hp
  have hcanonical := raw.canonical_prune
  exact ⟨hcanonical, Page.checked_prune hraw, hcanonical.prune_eq⟩

/-- Every page of an ingested document has a flowchart, whatever the direction given. -/
theorem exists_mermaid? {i : Ingested} {page : Page} (h : page ∈ i.document.pages)
    (given : Option String) : ∃ text, page.mermaid? given = some text := by
  obtain ⟨raw, hraw, rfl⟩ := exists_checked h
  have hbinary : raw.prune.HasBinaryPlaces := by
    intro node hn n hxy
    obtain ⟨x, rfl⟩ := (Page.checked_prune hraw).finite node hn n hxy
    exact ⟨.finite x, rfl⟩
  obtain ⟨direction, hd⟩ := Page.exists_direction? given (Or.inr hbinary)
  exact ⟨raw.prune.flowchart direction, by rw [Page.mermaid?, hd, Option.map_some]⟩

theorem exists_mapM_render {direction : Option String} {layout : String} {pages : List Page}
    (h : ∀ page ∈ pages, ∃ text, page.mermaid? direction = some text) :
    ∃ rendered, pages.mapM (·.render direction layout) = .ok rendered := by
  induction pages with
  | nil => exact ⟨[], rfl⟩
  | cons page rest ih =>
    obtain ⟨text, ht⟩ := h page List.mem_cons_self
    obtain ⟨others, ho⟩ := ih fun p hp => h p (List.mem_cons_of_mem _ hp)
    rw [List.mapM_cons, Page.render, Page.mermaid, ht, ho]
    exact ⟨_, rfl⟩

theorem exists_render (i : Ingested) (direction : Option String) (layout : String) :
    ∃ rendered, i.document.render direction layout = .ok rendered :=
  exists_mapM_render fun _ h => exists_mermaid? h direction

/-- A connector stands before its shapes, one of which is drawn twice, and a section is empty. -/
def looseBoard : Ingested :=
  .tree "key" {
    root := .node { id := "0", kind := Item.canvasKind } (some [
      .node { id := "c", kind := Item.connectorKind, start := some ⟨some "a"⟩,
              finish := some ⟨some "b"⟩ } none,
      .node { id := "s", kind := Item.sectionKind, name := some " Outer " } (some [
        .node { id := "a", kind := Item.shapeKind, characters := some "old" } none,
        .node { id := "t", kind := Item.sectionKind } none,
        .node { id := "b", kind := Item.shapeKind, characters := some "  ",
                box := some ⟨.zero, .zero, .zero, .zero⟩ } none]),
      .node { id := "a", kind := Item.shapeKind, characters := some " new  text " } none]) }

def looseBoardPage : Page where
  id := "0"
  name := "Page 1"
  nodes := [{ id := "a", label := "new text" },
    { id := "b", label := "Node b", x := some (.binary (.finite .zero)),
      y := some (.binary (.finite .zero)), sectionId := some "s" }]
  edges := [{ source := "a", target := "b", kind := "line" }]
  sections := [{ id := "s", label := "Outer", members := ["a", "b"] }]

theorem canonical_looseBoardPage :
    looseBoardPage ∈ looseBoard.document.pages ∧
      looseBoardPage.Canonical ∧ looseBoardPage.Checked ∧ looseBoardPage.prune = looseBoardPage :=
  ⟨by decide, canonical_pages looseBoard looseBoardPage (by decide)⟩

end Ingested

end FlowBoard
