import FlowBoard.Proofs.Ingestion.MarkupParity
import FlowBoard.Proofs.Mermaid.Respaced

/-!
# Blanks in page lists

Two page lists that become the same when their texts are cleaned give documents that differ in their
texts only, and the same flowcharts. Whether a text is blank does not change when it is cleaned, so
pruning drops the same notes and puts the same words in the place of labels.
-/

namespace FlowBoard

/-! ## Cleaning and pruning -/

theorem Node.cleaned_labelled_cleaned (node : Node) :
    node.cleaned.labelled.cleaned = node.labelled.cleaned := by
  have hblank : Text.isBlankText node.cleaned.label = Text.isBlankText node.label :=
    Text.isBlankText_clean_eq node.label
  rw [labelled, hblank, labelled]
  split_ifs
  · rfl
  · rw [cleaned, cleaned, Text.clean_clean]

theorem Edge.cleaned_cleaned (edge : Edge) : edge.cleaned.cleaned = edge.cleaned := by
  obtain ⟨source, target, label, kind⟩ := edge
  cases label with
  | none => rfl
  | some label =>
    by_cases hempty : Text.clean label = ""
    · simp [cleaned, tidied, Option.filter_some, hempty]
    · simp [cleaned, tidied, Option.filter_some, hempty, Text.clean_clean]

theorem Section.cleaned_cleaned (group : Section) : group.cleaned.cleaned = group.cleaned := by
  rw [cleaned, cleaned, Text.clean_clean]

theorem StickyNote.cleaned_cleaned (note : StickyNote) : note.cleaned.cleaned = note.cleaned := by
  rw [cleaned, cleaned, Text.clean_clean]

namespace Page

theorem hasNode_cleaned (page : Page) : page.cleaned.hasNode = page.hasNode := by
  funext id
  rw [hasNode, nodeIds_cleaned, hasNode]

/-- What pruning leaves is the same, but for blanks, if texts are cleaned first. -/
theorem cleaned_prune_cleaned (page : Page) :
    page.cleaned.prune.cleaned = page.prune.cleaned := by
  have hnodes : page.cleaned.prunedNodes.map Node.cleaned = page.prunedNodes.map Node.cleaned := by
    have hid : ∀ node : Node, node.cleaned.id = node.id := fun _ => rfl
    have hlast : lastNodes page.cleaned.nodes = (lastNodes page.nodes).map Node.cleaned :=
      lastNodes_map hid page.nodes
    rw [prunedNodes_eq, hlast, prunedNodes_eq, List.map_map, List.map_map, List.map_map]
    exact List.map_congr_left fun node _ => node.cleaned_labelled_cleaned
  have hedges : page.cleaned.prunedEdges.map Edge.cleaned = page.prunedEdges.map Edge.cleaned := by
    have hpruned : page.cleaned.prunedEdges = page.prunedEdges.map Edge.cleaned := by
      rw [prunedEdges, hasNode_cleaned]
      exact List.filter_map
    rw [hpruned, List.map_map]
    exact List.map_congr_left fun edge _ => edge.cleaned_cleaned
  have hsections : page.cleaned.prunedSections.map Section.cleaned =
      page.prunedSections.map Section.cleaned := by
    have hpruned : page.cleaned.prunedSections = page.prunedSections.map Section.cleaned := by
      simp only [prunedSections, membersOf, hasNode_cleaned]
      rw [cleaned, List.map_map, List.filter_map, List.filter_map, List.map_map]
      rfl
    rw [hpruned, List.map_map]
    exact List.map_congr_left fun group _ => group.cleaned_cleaned
  have hstickies : page.cleaned.prunedStickies.map StickyNote.cleaned =
      page.prunedStickies.map StickyNote.cleaned := by
    have hpruned : page.cleaned.prunedStickies = page.prunedStickies.map StickyNote.cleaned := by
      rw [prunedStickies, cleaned, List.filter_map]
      simp only [Function.comp_def, StickyNote.cleaned, Text.isBlankText_clean_eq]
      rfl
    rw [hpruned, List.map_map]
    exact List.map_congr_left fun note _ => note.cleaned_cleaned
  rw [cleaned, prune, hnodes, hedges, hsections, hstickies, cleaned, prune]
  rfl

/-- The page without its texts: what is left are ids, shapes and places, the ends and kinds of
edges, the members of sections, and that there are notes. -/
def wordless (page : Page) : Page :=
  { page with
    nodes := page.nodes.map fun node => { node with label := "" }
    edges := page.edges.map fun edge => { edge with label := none }
    sections := page.sections.map fun group => { group with label := "" }
    stickies := page.stickies.map fun note => { note with text := "" } }

theorem wordless_cleaned (page : Page) : page.cleaned.wordless = page.wordless := by
  simp only [wordless, cleaned, List.map_map]
  rfl

theorem mapM_mermaid_cleaned (pages : List Page) (direction : Option String) :
    (pages.map cleaned).mapM (mermaid · direction) = pages.mapM (mermaid · direction) := by
  have hmermaid : (mermaid · direction) ∘ cleaned = (mermaid · direction) := by
    funext page
    rw [Function.comp_apply, mermaid, mermaid?_cleaned, mermaid]
  rw [List.mapM_map, hmermaid]

end Page

def Document.wordless (doc : Document) : Document :=
  { doc with pages := doc.pages.map Page.wordless }

/-! ## Page lists -/

namespace Wire

def NodeRecord.cleaned (r : NodeRecord) : NodeRecord := { r with label := Text.clean r.label }

def EdgeRecord.cleaned (r : EdgeRecord) : EdgeRecord :=
  { r with label := (r.label.map Text.clean).filter (!·.isEmpty) }

def PageRecord.cleaned (r : PageRecord) : PageRecord :=
  { r with
    nodes := r.nodes.map NodeRecord.cleaned
    edges := r.edges.map EdgeRecord.cleaned
    sections := r.sections.map Section.cleaned
    stickies := r.stickies.map StickyNote.cleaned }

/-- The page list with every label and every text of a note cleaned. -/
def PageList.cleaned (list : PageList) : PageList :=
  { list with pages := list.pages.map PageRecord.cleaned }

theorem PageRecord.toPage_cleaned (r : PageRecord) : r.cleaned.toPage = r.toPage.cleaned := by
  simp only [toPage, cleaned, Page.cleaned, List.map_map]
  rfl

end Wire

namespace Ingested

open Mermaid Wire

variable {list other : PageList}

theorem pages_cleaned (key : String) (list : PageList) :
    (structured key list).pages.map Page.cleaned =
      list.cleaned.pages.map fun record => record.toPage.prune.cleaned := by
  rw [pages, PageList.cleaned, List.map_map, List.map_map]
  refine List.map_congr_left fun record _ => ?_
  rw [Function.comp_apply, Function.comp_apply, record.toPage_cleaned, Page.cleaned_prune_cleaned]

theorem pages_cleaned_eq (h : list.cleaned = other.cleaned) (key : String) :
    (structured key list).pages.map Page.cleaned =
      (structured key other).pages.map Page.cleaned := by
  rw [pages_cleaned, h, pages_cleaned]

theorem wordless_eq (h : list.cleaned = other.cleaned) (key : String) :
    (structured key list).document.wordless = (structured key other).document.wordless := by
  have hname : list.cleaned.fileName = other.cleaned.fileName := by rw [h]
  change list.fileName = other.fileName at hname
  have hpages := congrArg (List.map Page.wordless) (pages_cleaned_eq h key)
  rw [List.map_map, List.map_map] at hpages
  simp only [Function.comp_def, Page.wordless_cleaned] at hpages
  simp only [Document.wordless, document, fileName, hname, hpages]
  rfl

/-- Cleaning a text before it is made safe changes nothing. Page lists that are the same once their
texts are cleaned give documents that differ in texts only, and the same flowcharts. -/
theorem render_eq_of_cleaned (h : list.cleaned = other.cleaned) (key : String) :
    (∀ s, sanitize (Text.clean s) = sanitize s) ∧
    (structured key list).document.wordless = (structured key other).document.wordless ∧
    ∀ direction layout, ∃ rendered rendered',
      (structured key list).document.render direction layout = .ok rendered ∧
      (structured key other).document.render direction layout = .ok rendered' ∧
      rendered.map RenderedPage.mermaid = rendered'.map RenderedPage.mermaid := by
  refine ⟨sanitize_clean, wordless_eq h key, fun direction layout => ?_⟩
  obtain ⟨rendered, hr⟩ := exists_render (structured key list) direction layout
  obtain ⟨rendered', hr'⟩ := exists_render (structured key other) direction layout
  have htexts := Document.render_mermaid (structured key list).document direction layout
  have htexts' := Document.render_mermaid (structured key other).document direction layout
  rw [hr, ← Page.mapM_mermaid_cleaned] at htexts
  rw [hr', ← Page.mapM_mermaid_cleaned] at htexts'
  have hpages := pages_cleaned_eq h key
  have hsame : (Except.ok rendered : Except Failure _).map (·.map RenderedPage.mermaid) =
      (Except.ok rendered').map (·.map RenderedPage.mermaid) :=
    calc (Except.ok rendered : Except Failure _).map (·.map RenderedPage.mermaid)
        = ((structured key list).pages.map Page.cleaned).mapM (Page.mermaid · direction) := htexts
      _ = ((structured key other).pages.map Page.cleaned).mapM (Page.mermaid · direction) := by
          rw [hpages]
      _ = (Except.ok rendered').map (·.map RenderedPage.mermaid) := htexts'.symm
  exact ⟨rendered, rendered', hr, hr', Except.ok.inj hsame⟩

/-- Two shapes, one without a word, in a section, with a connector that has no word either. -/
def oneSpacing : PageList where
  pages := [{
    id := "p"
    name := "Flow"
    nodes := [⟨"a", " Pay\tnow ", none, none, none, some "s"⟩, ⟨"b", "\n ", none, none, none, none⟩]
    edges := [⟨"a", "b", some " ", .line⟩, ⟨"b", "a", some "if  late", .arrow⟩]
    sections := [⟨"s", "Till\r\nOne", ["a"]⟩]
    stickies := [⟨"m", "  "⟩, ⟨"n", "\u3000check"⟩] }]

def otherSpacing : PageList where
  pages := [{
    id := "p"
    name := "Flow"
    nodes := [⟨"a", "Pay now", none, none, none, some "s"⟩, ⟨"b", "", none, none, none, none⟩]
    edges := [⟨"a", "b", none, .line⟩, ⟨"b", "a", some "if late", .arrow⟩]
    sections := [⟨"s", "Till One", ["a"]⟩]
    stickies := [⟨"m", ""⟩, ⟨"n", "check"⟩] }]

theorem otherSpacing_renders :
    oneSpacing.cleaned = otherSpacing.cleaned ∧
    (structured "key" oneSpacing).document.wordless =
      (structured "key" otherSpacing).document.wordless ∧
    ∃ rendered rendered',
      (structured "key" oneSpacing).document.render none "auto" = .ok rendered ∧
      (structured "key" otherSpacing).document.render none "auto" = .ok rendered' ∧
      rendered.map RenderedPage.mermaid = rendered'.map RenderedPage.mermaid := by
  have h : oneSpacing.cleaned = otherSpacing.cleaned := by decide
  obtain ⟨-, hwordless, hrender⟩ := render_eq_of_cleaned h "key"
  exact ⟨h, hwordless, hrender none "auto"⟩

end Ingested

end FlowBoard
