import FlowBoard.Proofs.Mermaid.Settled
import FlowBoard.Proofs.Mermaid.Unshown

/-!
# Blanks are not shown as they are written

`cleaned` cleans all that users write on a page: the labels of nodes, edges and sections, and the
texts of notes. An edge label that is blank counts as none. The flowchart stays the same, and so
does all that is not text.
-/

namespace FlowBoard

open Mermaid

def Node.cleaned (node : Node) : Node := { node with label := Text.clean node.label }

/-- The edge with its label cleaned, and without it if nothing is left of it. -/
def Edge.cleaned (edge : Edge) : Edge :=
  Edge.tidied { edge with label := edge.label.map Text.clean }

def Section.cleaned (group : Section) : Section := { group with label := Text.clean group.label }

def StickyNote.cleaned (note : StickyNote) : StickyNote :=
  { note with text := Text.clean note.text }

theorem shownText?_clean (s : String) : shownText? (Text.clean s) = shownText? s := by
  rw [shownText?, sanitize_clean, shownText?]

theorem Node.line_cleaned (node : Node) : node.cleaned.line = node.line := by
  funext inside rank
  simp only [Node.line, Node.shownLabel, Node.cleaned, shownText?_clean]

theorem Edge.bind_shownText?_cleaned (edge : Edge) :
    edge.cleaned.label.bind shownText? = edge.label.bind shownText? := by
  rw [cleaned, Page.bind_shownText?_tidied]
  change (edge.label.map Text.clean).bind shownText? = edge.label.bind shownText?
  cases edge.label with
  | none => rfl
  | some label => rw [Option.map_some, Option.bind_some, Option.bind_some, shownText?_clean]

namespace Page

/-- The page with every text on it cleaned. -/
def cleaned (page : Page) : Page :=
  { page with
    nodes := page.nodes.map Node.cleaned
    edges := page.edges.map Edge.cleaned
    sections := page.sections.map Section.cleaned
    stickies := page.stickies.map StickyNote.cleaned }

theorem nodeIds_cleaned (page : Page) : page.cleaned.nodeIds = page.nodeIds :=
  List.map_map

theorem nodeLines_cleaned (page : Page) : page.cleaned.nodeLines = page.nodeLines := by
  funext shown inside ids
  refine List.filterMap_congr fun id _ => ?_
  have hnode : page.cleaned.nodeOf? id = (page.nodeOf? id).map Node.cleaned := List.find?_map
  rw [hnode, Option.map_map]
  simp only [Function.comp_def, Node.line_cleaned]

theorem noteTexts_cleaned (page : Page) : page.cleaned.noteTexts = page.noteTexts := by
  rw [noteTexts, cleaned, List.map_map, noteTexts]
  simp only [Function.comp_def, StickyNote.cleaned, sanitize_clean]

theorem map_edgeLine_cleaned (page : Page) :
    page.cleaned.linkedEdges.map page.cleaned.edgeLine = page.linkedEdges.map page.edgeLine := by
  have hlinked : page.cleaned.linkedEdges = page.linkedEdges.map Edge.cleaned := by
    simp only [linkedEdges, nodeIds_cleaned]
    exact List.filter_map
  rw [hlinked, List.map_map]
  refine List.map_congr_left fun edge _ => ?_
  simp only [Function.comp_apply, edgeLine, shownIds, nodeIds_cleaned,
    Edge.bind_shownText?_cleaned]
  rfl

theorem lines_cleaned (page : Page) (direction : String) :
    page.cleaned.lines direction = page.lines direction := by
  have hmembers : ∀ group : Section, group.cleaned.members = group.members := fun _ => rfl
  have hsections : page.cleaned.sections = page.sections.map Section.cleaned := rfl
  exact lines_congr page.nodeIds_cleaned hmembers hsections page.nodeLines_cleaned
    (fun group => shownText?_clean group.label) page.noteTexts_cleaned page.map_edgeLine_cleaned
    direction

/-- A page has the same flowchart when its texts are cleaned. -/
theorem mermaid?_cleaned (page : Page) (given : Option String) :
    page.cleaned.mermaid? given = page.mermaid? given := by
  have hplaces : Direction.places page.cleaned.nodes = Direction.places page.nodes :=
    List.filterMap_map
  exact mermaid?_congr hplaces page.lines_cleaned given

end Page

end FlowBoard
