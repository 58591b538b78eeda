import FlowBoard.Proofs.Mermaid.Names
import FlowBoard.Proofs.Mermaid.Text

/-!
# Lines of a page

`lines_eq` gives the order of the lines of a flowchart, with the lines of each section determined by
the sections before it; `lines_congr` and `mermaid?_congr` say what of a page counts for its lines.
`Drawn` lists the kinds of lines that there are. From these follow the names that lines define and
use, that every block is closed before the next one opens, and that no line is broken by the text
in it.
-/

namespace FlowBoard

open Mermaid

/-- Whether a block is open after a line, if the line may stand where it does: a block opens only
outside all others, and a node line is indented as one inside a block exactly when one is open. -/
def Mermaid.Line.openAfter? (isOpen : Bool) : Line → Option Bool
  | .opening .. => if isOpen then none else some true
  | .closing => if isOpen then some false else none
  | .node inside .. => if inside == isOpen then some isOpen else none
  | _ => some isOpen

namespace Page

/-- The lines of a section: none when `earlier` ones list all its nodes. -/
def groupLines (page : Page) (earlier : List Section) (group : Section) : List Line :=
  let ids := page.firstListed earlier group
  if ids.isEmpty then []
  else .opening (earlier.length + 1)
      ((shownText? group.label).getD ("Section " ++ toString (earlier.length + 1))) ::
    (page.nodeLines page.shownIds true ids ++ [.closing])

/-- The texts of the notes of which something is left when they are made safe. -/
def noteTexts (page : Page) : List String :=
  (page.stickies.map fun note => sanitize note.text).filter (· ≠ "")

/-- The edges of which both ends are nodes. -/
def linkedEdges (page : Page) : List Edge :=
  page.edges.filter fun edge => edge.source ∈ page.nodeIds ∧ edge.target ∈ page.nodeIds

/-- The line of an edge, between the ranks of its ends. -/
def edgeLine (page : Page) (edge : Edge) : Line :=
  .edge (rankIn page.shownIds edge.source) (rankIn page.shownIds edge.target) (arrowOf edge.kind)
    (edge.label.bind shownText?)

/-- The node ids that no section lists. -/
def unlisted (page : Page) : List String :=
  page.shownIds.filter fun id => page.sections.all fun g => !g.members.contains id

variable {page : Page}

/-! ## The order of lines -/

theorem looseIds_eq (page : Page) : page.looseIds = page.unlisted := by
  apply List.filter_congr
  intro id hid
  have hnode : id ∈ page.nodeIds := mem_distinct.mp hid
  rw [Bool.eq_iff_iff]
  simp only [Bool.not_eq_true', List.contains_eq_mem, decide_eq_false_iff_not, mem_members_blocks,
    hnode, true_and, not_exists, not_and, List.all_eq_true]

theorem shownText?_eq (s : String) :
    shownText? s = if sanitize s = "" then none else some (sanitize s) := by
  simp only [shownText?, String.isEmpty_iff]

theorem noteLines_eq (page : Page) : page.noteLines = page.noteTexts.map Line.note := by
  rw [noteLines, noteTexts, ← List.filterMap_eq_filter, List.filterMap_map, List.map_filterMap]
  apply List.filterMap_congr
  intro note _
  by_cases h : sanitize note.text = "" <;> simp [shownText?_eq, Option.guard, h]

theorem edgeLines_eq (page : Page) :
    page.edgeLines page.shownIds = page.linkedEdges.map page.edgeLine := by
  rw [edgeLines, linkedEdges]
  congr 1
  apply List.filter_congr
  intro edge _
  rw [Bool.eq_iff_iff, Bool.and_eq_true, hasNode_iff, hasNode_iff, decide_eq_true_eq]

theorem groupLines_eq (page : Page) (earlier : List Section) (group : Section) :
    page.groupLines earlier group =
      (page.block? earlier group).toList.flatMap (page.blockLines page.shownIds) := by
  simp only [groupLines, block?]
  split_ifs
  · rfl
  · rw [Option.toList_some, List.flatMap_singleton, blockLines]

theorem flatMap_blockLines (page : Page) : page.blocks.flatMap (page.blockLines page.shownIds) =
    page.sections.zipIdx.flatMap fun (group, i) =>
      page.groupLines (page.sections.take i) group := by
  rw [blocks_eq, List.filterMap_eq_flatMap_toList, List.flatMap_assoc]
  apply List.flatMap_congr
  rintro ⟨group, i⟩ _
  exact (groupLines_eq _ _ _).symm

theorem lines_eq (page : Page) (direction : String) : page.lines direction =
    .header direction :: (page.noteTexts.map Line.note ++
      page.sections.zipIdx.flatMap
        (fun (group, i) => page.groupLines (page.sections.take i) group) ++
      page.nodeLines page.shownIds false page.unlisted ++
      page.linkedEdges.map page.edgeLine) := by
  rw [← looseIds_eq, ← flatMap_blockLines, ← noteLines_eq, ← edgeLines_eq]
  rfl

/-- Two pages whose sections correspond one to one have the same lines for all their sections, if
those that correspond have the same lines. -/
theorem flatMap_groupLines_map {other : Page} {change : Section → Section}
    (hsections : other.sections = page.sections.map change)
    (h : ∀ earlier group, earlier ⊆ page.sections → group ∈ page.sections →
      other.groupLines (earlier.map change) (change group) = page.groupLines earlier group) :
    (other.sections.zipIdx.flatMap fun (group, i) =>
        other.groupLines (other.sections.take i) group) =
      page.sections.zipIdx.flatMap fun (group, i) =>
        page.groupLines (page.sections.take i) group := by
  rw [hsections, List.zipIdx_map, List.flatMap_map]
  refine List.flatMap_congr fun (group, i) hgroup => ?_
  have hsame := h (page.sections.take i) group (List.take_subset _ _)
    (List.fst_mem_of_mem_zipIdx hgroup)
  rw [List.map_take] at hsame
  exact hsame

section Alike

variable {other : Page} {change : Section → Section} (hids : other.nodeIds = page.nodeIds)
  (hmembers : ∀ group, (change group).members = group.members)

include hmembers

theorem all_not_contains_map (groups : List Section) (id : String) :
    ((groups.map change).all fun g => !g.members.contains id) =
      groups.all fun g => !g.members.contains id := by
  rw [List.all_map]
  simp only [Function.comp_def, hmembers]

include hids

theorem firstListed_map (earlier : List Section) (group : Section) :
    other.firstListed (earlier.map change) (change group) = page.firstListed earlier group := by
  simp only [firstListed, hmembers, hasNode, hids, all_not_contains_map hmembers]

variable (hsections : other.sections = page.sections.map change)

include hsections

theorem unlisted_map : other.unlisted = page.unlisted := by
  simp only [unlisted, shownIds, hids, hsections, all_not_contains_map hmembers]

/-- Two pages have the same lines if they have the same node ids, lines of nodes and edges, and
texts of notes, and sections with the same members and titles. -/
theorem lines_congr (hnodes : other.nodeLines = page.nodeLines)
    (htitle : ∀ group, shownText? (change group).label = shownText? group.label)
    (hnotes : other.noteTexts = page.noteTexts)
    (hedges : other.linkedEdges.map other.edgeLine = page.linkedEdges.map page.edgeLine)
    (direction : String) : other.lines direction = page.lines direction := by
  have hshown : other.shownIds = page.shownIds := by rw [shownIds, hids, shownIds]
  have hgroups : ∀ earlier group, earlier ⊆ page.sections → group ∈ page.sections →
      other.groupLines (earlier.map change) (change group) = page.groupLines earlier group := by
    intro earlier group _ _
    rw [groupLines, firstListed_map hids hmembers, List.length_map, htitle, hnodes, hshown,
      groupLines]
  rw [lines_eq, lines_eq, hnotes, flatMap_groupLines_map hsections hgroups, hnodes, hshown,
    unlisted_map hids hmembers hsections, hedges]

end Alike

/-- The lines of a page and the places of its nodes are all that its flowchart depends on. -/
theorem mermaid?_congr {other : Page}
    (hplaces : Direction.places other.nodes = Direction.places page.nodes)
    (hlines : ∀ direction, other.lines direction = page.lines direction) (given : Option String) :
    other.mermaid? given = page.mermaid? given := by
  have hdirection : other.direction? given = page.direction? given := by
    rw [direction?, Direction.detect?, hplaces, direction?, Direction.detect?]
  have hflowchart : other.flowchart = page.flowchart := by
    funext direction
    rw [flowchart, hlines, flowchart]
  rw [mermaid?, hdirection, hflowchart, mermaid?]

/-! ## Members of the lists of lines -/

theorem exists_text_of_mem_noteLines {line : Line} (h : line ∈ page.noteLines) :
    ∃ s, line = .note (sanitize s) := by
  rw [noteLines_eq] at h
  obtain ⟨text, htext, rfl⟩ := List.mem_map.mp h
  obtain ⟨note, _, rfl⟩ := List.mem_map.mp (List.mem_of_mem_filter htext)
  exact ⟨note.text, rfl⟩

theorem exists_node_of_mem_nodeLines {shown ids : List String} {inside : Bool} {line : Line}
    (h : line ∈ page.nodeLines shown inside ids) :
    ∃ id ∈ ids, ∃ node, page.nodeOf? id = some node ∧
      line = node.line inside (rankIn shown id) := by
  obtain ⟨id, hid, hline⟩ := List.mem_filterMap.mp h
  obtain ⟨node, hn, rfl⟩ := Option.map_eq_some_iff.mp hline
  exact ⟨id, hid, node, hn, rfl⟩

theorem exists_edge_of_mem_edgeLines {line : Line} (h : line ∈ page.edgeLines page.shownIds) :
    ∃ edge : Edge, edge.source ∈ page.nodeIds ∧ edge.target ∈ page.nodeIds ∧
      line = page.edgeLine edge := by
  rw [edgeLines_eq, linkedEdges] at h
  obtain ⟨edge, he, rfl⟩ := List.mem_map.mp h
  have hends := List.of_mem_filter he
  rw [decide_eq_true_eq] at hends
  exact ⟨edge, hends.1, hends.2, rfl⟩

/-! ## Names on the lines -/

theorem definedNames_noteLines (page : Page) : page.noteLines.filterMap Line.definedName? = [] := by
  rw [List.filterMap_eq_nil_iff]
  intro line hl
  obtain ⟨_, rfl⟩ := exists_text_of_mem_noteLines hl
  rfl

theorem definedNames_edgeLines (page : Page) :
    (page.edgeLines page.shownIds).filterMap Line.definedName? = [] := by
  rw [List.filterMap_eq_nil_iff]
  intro line hl
  obtain ⟨_, _, _, rfl⟩ := exists_edge_of_mem_edgeLines hl
  rfl

theorem definedNames_blockLines {block : Block} (h : ∀ id ∈ block.members, id ∈ page.nodeIds) :
    (page.blockLines page.shownIds block).filterMap Line.definedName? =
      block.members.map page.nameOf := by
  rw [blockLines, List.filterMap_cons_none rfl, List.filterMap_append, definedNames_nodeLines h]
  exact List.append_nil _

theorem mem_nodeIds_of_mem_block {block : Block} (hb : block ∈ page.blocks) {id : String}
    (h : id ∈ block.members) : id ∈ page.nodeIds :=
  (mem_members_blocks.mp (List.mem_flatMap.mpr ⟨block, hb, h⟩)).1

theorem definedNames_blocks (page : Page) :
    (page.blocks.flatMap (page.blockLines page.shownIds)).filterMap Line.definedName? =
      (page.blocks.flatMap Block.members).map page.nameOf := by
  rw [List.filterMap_flatMap, List.map_flatMap]
  apply List.flatMap_congr
  intro block hb
  exact definedNames_blockLines fun id => mem_nodeIds_of_mem_block hb

/-- The node lines stand in the order of the drawn ids. -/
theorem definedNames_lines (page : Page) (direction : String) :
    (page.lines direction).filterMap Line.definedName? = page.drawnIds.map page.nameOf := by
  have hloose : ∀ id ∈ page.looseIds, id ∈ page.nodeIds := fun id h => (mem_looseIds.mp h).1
  simp only [lines, List.filterMap_cons_none (f := Line.definedName?) (a := .header direction) rfl,
    List.filterMap_append, definedNames_noteLines, definedNames_blocks,
    definedNames_nodeLines hloose, definedNames_edgeLines, List.nil_append, List.append_nil,
    drawnIds, List.map_append]

theorem mem_definedNames_lines {direction name : String} :
    name ∈ (page.lines direction).filterMap Line.definedName? ↔
      ∃ id ∈ page.nodeIds, page.nameOf id = name := by
  rw [definedNames_lines, List.mem_map]
  simp only [mem_drawnIds]

theorem count_definedNames_lines {id : String} (h : id ∈ page.nodeIds) (direction : String) :
    ((page.lines direction).filterMap Line.definedName?).count (page.nameOf id) = 1 := by
  apply List.count_eq_one_of_mem
  · rw [definedNames_lines]
    exact nodup_map_nameOf page.nodup_drawnIds fun id => mem_drawnIds.mp
  · exact mem_definedNames_lines.mpr ⟨id, h, rfl⟩

/-! ## Sections -/

theorem definedNames_groupLines (page : Page) (earlier : List Section) (group : Section) :
    (page.groupLines earlier group).filterMap Line.definedName? =
      (page.firstListed earlier group).map page.nameOf := by
  have hmem : ∀ id ∈ page.firstListed earlier group, id ∈ page.nodeIds :=
    fun id h => (mem_firstListed.mp h).2.1
  simp only [groupLines]
  split_ifs with hnone
  · rw [List.isEmpty_iff.mp hnone]
    rfl
  · rw [List.filterMap_cons_none rfl, List.filterMap_append, definedNames_nodeLines hmem]
    exact List.append_nil _

theorem groupLines_isInfix {earlier later : List Section} {group : Section}
    (h : page.sections = earlier ++ group :: later) (direction : String) :
    page.groupLines earlier group <:+: page.lines direction := by
  have hgroup : (group, earlier.length) ∈ page.sections.zipIdx := by
    rw [List.mem_zipIdx_iff_getElem?, h]
    simp
  have htake : page.sections.take earlier.length = earlier := by rw [h, List.take_left]
  have hblocks := List.infix_of_mem_flatten (List.mem_map_of_mem hgroup
    (f := fun entry => page.groupLines (page.sections.take entry.2) entry.1))
  rw [htake] at hblocks
  rw [lines_eq, List.append_assoc _ (page.nodeLines _ _ _)]
  exact List.infix_cons (hblocks.trans (List.infix_append _ _ _))

/-! ## Nodes -/

theorem mem_nodeLines {ids : List String} {id : String} {node : Node} (h : id ∈ ids)
    (hn : page.nodeOf? id = some node) (inside : Bool) :
    node.line inside (rankIn page.shownIds id) ∈ page.nodeLines page.shownIds inside ids := by
  refine List.mem_filterMap.mpr ⟨id, h, ?_⟩
  rw [hn]
  rfl

theorem exists_line_of_mem_nodeIds {id : String} (h : id ∈ page.nodeIds) (direction : String) :
    ∃ node inside, page.nodeOf? id = some node ∧
      node.line inside (rankIn page.shownIds id) ∈ page.lines direction := by
  obtain ⟨node, hn⟩ := exists_nodeOf? h
  rcases List.mem_append.mp (mem_drawnIds.mpr h) with hblock | hloose
  · obtain ⟨block, hb, hmem⟩ := List.mem_flatMap.mp hblock
    have hline := mem_nodeLines hmem hn true
    have hlines : node.line true (rankIn page.shownIds id) ∈
        page.blocks.flatMap (page.blockLines page.shownIds) :=
      List.mem_flatMap.mpr ⟨block, hb,
        List.mem_cons_of_mem _ (List.mem_append_left _ hline)⟩
    refine ⟨node, true, hn, ?_⟩
    simp only [lines, List.mem_cons, List.mem_append, hlines, true_or, or_true]
  · have hline := mem_nodeLines hloose hn false
    refine ⟨node, false, hn, ?_⟩
    simp only [lines, List.mem_cons, List.mem_append, hline, true_or, or_true]

/-! ## Kinds of lines -/

/-- The lines that a flowchart can have. -/
inductive Drawn (page : Page) (direction : String) : Line → Prop
  | header : Drawn page direction (.header direction)
  | note (s : String) : Drawn page direction (.note (sanitize s))
  | opening {block : Block} (hb : block ∈ page.blocks) :
      Drawn page direction (.opening block.number block.title)
  | closing : Drawn page direction .closing
  | inside {id : String} {node : Node} (hn : page.nodeOf? id = some node) :
      Drawn page direction (node.line true (rankIn page.shownIds id))
  | loose {id : String} {node : Node} (hid : id ∈ page.looseIds)
      (hn : page.nodeOf? id = some node) :
      Drawn page direction (node.line false (rankIn page.shownIds id))
  | edge {edge : Edge} (hs : edge.source ∈ page.nodeIds) (ht : edge.target ∈ page.nodeIds) :
      Drawn page direction (page.edgeLine edge)

theorem drawn_of_mem_lines {direction : String} {line : Line} (h : line ∈ page.lines direction) :
    page.Drawn direction line := by
  simp only [lines, List.mem_cons, List.mem_append, List.mem_flatMap] at h
  rcases h with rfl | ((hnote | ⟨block, hb, hblock⟩) | hloose) | hedge
  · exact .header
  · obtain ⟨s, rfl⟩ := exists_text_of_mem_noteLines hnote
    exact .note s
  · simp only [blockLines, List.mem_cons, List.mem_append, List.not_mem_nil, or_false] at hblock
    rcases hblock with rfl | hmember | rfl
    · exact .opening hb
    · obtain ⟨id, _, node, hn, rfl⟩ := exists_node_of_mem_nodeLines hmember
      exact .inside hn
    · exact .closing
  · obtain ⟨id, hid, node, hn, rfl⟩ := exists_node_of_mem_nodeLines hloose
    exact .loose hid hn
  · obtain ⟨edge, hs, ht, rfl⟩ := exists_edge_of_mem_edgeLines hedge
    exact .edge hs ht

theorem mem_topNames_lines {direction id : String} (h : id ∈ page.nodeIds) :
    page.nameOf id ∈ (page.lines direction).filterMap Line.topName? ↔
      ∀ g ∈ page.sections, id ∉ g.members := by
  constructor
  · intro hname
    obtain ⟨line, hline, htop⟩ := List.mem_filterMap.mp hname
    cases drawn_of_mem_lines hline with
    | header | note | opening | closing | inside | edge => cases htop
    | loose hid hn =>
      have hloose := mem_looseIds.mp hid
      have he : _ = id := eq_of_nameOf_eq hloose.1 h (Option.some.inj htop)
      rw [← he]
      exact hloose.2
  · intro hnone
    obtain ⟨node, hn⟩ := exists_nodeOf? h
    have hline := mem_nodeLines (mem_looseIds.mpr ⟨h, hnone⟩) hn false
    refine List.mem_filterMap.mpr ⟨node.line false (rankIn page.shownIds id), ?_, rfl⟩
    simp only [lines, List.mem_cons, List.mem_append, hline, true_or, or_true]

theorem mem_definedNames_of_mem_usedNames {direction name : String}
    (h : name ∈ (page.lines direction).flatMap Line.usedNames) :
    name ∈ (page.lines direction).filterMap Line.definedName? := by
  obtain ⟨line, hline, hname⟩ := List.mem_flatMap.mp h
  cases drawn_of_mem_lines hline with
  | header | note | opening | closing | inside | loose => cases hname
  | edge hs ht =>
    rcases List.mem_pair.mp hname with rfl | rfl
    · exact mem_definedNames_lines.mpr ⟨_, hs, rfl⟩
    · exact mem_definedNames_lines.mpr ⟨_, ht, rfl⟩

/-! ## Opening and closing -/

theorem blockNames_nodeLines (page : Page) (shown : List String) (inside : Bool)
    (ids : List String) : (page.nodeLines shown inside ids).filterMap Line.blockName? = [] := by
  rw [List.filterMap_eq_nil_iff]
  intro line hl
  obtain ⟨_, _, _, _, rfl⟩ := exists_node_of_mem_nodeLines hl
  rfl

theorem blockNames_noteLines (page : Page) : page.noteLines.filterMap Line.blockName? = [] := by
  rw [List.filterMap_eq_nil_iff]
  intro line hl
  obtain ⟨_, rfl⟩ := exists_text_of_mem_noteLines hl
  rfl

theorem blockNames_edgeLines (page : Page) :
    (page.edgeLines page.shownIds).filterMap Line.blockName? = [] := by
  rw [List.filterMap_eq_nil_iff]
  intro line hl
  obtain ⟨_, _, _, rfl⟩ := exists_edge_of_mem_edgeLines hl
  rfl

theorem blockNames_lines (page : Page) (direction : String) :
    (page.lines direction).filterMap Line.blockName? =
      (page.blocks.map Block.number).map fun number => "s" ++ toString number := by
  have hblocks : (page.blocks.flatMap (page.blockLines page.shownIds)).filterMap Line.blockName? =
      (page.blocks.map Block.number).map fun number => "s" ++ toString number := by
    rw [List.filterMap_flatMap, List.map_map, List.map_eq_flatMap]
    apply List.flatMap_congr
    intro block _
    have hname : Line.blockName? (.opening block.number block.title) =
        some ("s" ++ toString block.number) := rfl
    rw [blockLines, List.filterMap_cons_some hname, List.filterMap_append, blockNames_nodeLines]
    rfl
  simp only [lines, List.filterMap_cons_none (f := Line.blockName?) (a := .header direction) rfl,
    List.filterMap_append, blockNames_noteLines, hblocks, blockNames_nodeLines,
    blockNames_edgeLines, List.nil_append, List.append_nil]

theorem nodup_blockNames_lines (page : Page) (direction : String) :
    ((page.lines direction).filterMap Line.blockName?).Nodup := by
  rw [blockNames_lines]
  apply (nodup_numbers_blocksFrom page [] 1 page.sections).map
  intro m n h
  exact toString_injective ((String.append_right_inj _).mp h)

/-- Lines that change nothing, one by one, change nothing in sequence. -/
theorem foldlM_openAfter? {isOpen : Bool} {lines : List Line}
    (h : ∀ line ∈ lines, line.openAfter? isOpen = some isOpen) :
    lines.foldlM Line.openAfter? isOpen = some isOpen := by
  induction lines with
  | nil => rfl
  | cons line rest ih =>
    rw [List.foldlM_cons, h line List.mem_cons_self]
    exact ih fun line' hl => h line' (List.mem_cons_of_mem _ hl)

theorem foldlM_openAfter?_nodeLines (page : Page) (shown : List String) (inside : Bool)
    (ids : List String) :
    (page.nodeLines shown inside ids).foldlM Line.openAfter? inside = some inside := by
  apply foldlM_openAfter?
  intro line hl
  obtain ⟨_, _, _, _, rfl⟩ := exists_node_of_mem_nodeLines hl
  simp [Node.line, Line.openAfter?]

theorem foldlM_openAfter?_blocks (page : Page) (blocks : List Block) :
    (blocks.flatMap (page.blockLines page.shownIds)).foldlM Line.openAfter? false =
      some false := by
  induction blocks with
  | nil => rfl
  | cons block rest ih =>
    rw [List.flatMap_cons, List.foldlM_append, blockLines, List.foldlM_cons]
    simp only [Line.openAfter?, Bool.false_eq_true, if_false, Option.bind_eq_bind,
      Option.bind_some, List.foldlM_append, foldlM_openAfter?_nodeLines, List.foldlM_cons,
      List.foldlM_nil, if_true, Option.pure_def]
    exact ih

theorem foldlM_openAfter?_lines (page : Page) (direction : String) :
    (page.lines direction).foldlM Line.openAfter? false = some false := by
  have hnotes : page.noteLines.foldlM Line.openAfter? false = some false := by
    apply foldlM_openAfter?
    intro line hl
    obtain ⟨_, rfl⟩ := exists_text_of_mem_noteLines hl
    rfl
  have hedges : (page.edgeLines page.shownIds).foldlM Line.openAfter? false = some false := by
    apply foldlM_openAfter?
    intro line hl
    obtain ⟨_, _, _, rfl⟩ := exists_edge_of_mem_edgeLines hl
    rfl
  simp only [lines, List.foldlM_cons, Line.openAfter?, Option.bind_eq_bind, Option.bind_some,
    List.foldlM_append, hnotes, foldlM_openAfter?_blocks, foldlM_openAfter?_nodeLines, hedges]

/-! ## Line breaks -/

theorem oneLine_of_shownText? {s text : String} (h : shownText? s = some text) : OneLine text := by
  unfold shownText? at h
  simp only at h
  split_ifs at h
  cases h
  exact oneLine_sanitize s

theorem oneLine_shownText?_getD {s other : String} (h : OneLine other) :
    OneLine ((shownText? s).getD other) := by
  cases hs : shownText? s with
  | none => exact h
  | some text => exact oneLine_of_shownText? hs

theorem oneLine_nodeName (rank : Nat) : OneLine (nodeName rank) :=
  oneLine_append.mpr ⟨by decide, oneLine_nat rank⟩

theorem oneLine_title {block : Block} (h : block ∈ page.blocks) : OneLine block.title := by
  rw [blocks_eq] at h
  obtain ⟨⟨group, i⟩, _, hblock⟩ := List.mem_filterMap.mp h
  simp only [block?] at hblock
  split_ifs at hblock
  have hnumbered : OneLine ("Section " ++ toString ((page.sections.take i).length + 1)) :=
    oneLine_append.mpr ⟨by decide, oneLine_nat _⟩
  have htitle : block.title = (shownText? group.label).getD
      ("Section " ++ toString ((page.sections.take i).length + 1)) := by
    rw [← Option.some.inj hblock]
  rw [htitle]
  exact oneLine_shownText?_getD hnumbered

theorem oneLine_node (node : Node) (inside : Bool) (rank : Nat) :
    OneLine (node.line inside rank).text := by
  have hlabel : OneLine (node.shownLabel rank) :=
    oneLine_shownText?_getD (oneLine_shownText?_getD (oneLine_nodeName rank))
  have hbrackets := oneLine_brackets node.shape
  have hindent : OneLine (if inside then "    " else "  ") := by
    cases inside <;> decide
  simp only [Node.line, Line.text, oneLine_append, hindent, oneLine_nodeName, hbrackets, hlabel,
    and_self]

theorem oneLine_edge (page : Page) (edge : Edge) : OneLine (page.edgeLine edge).text := by
  have hmarks : OneLine "  " ∧ OneLine " " ∧ OneLine "|" ∧ OneLine "| " := by decide
  have harrow : OneLine (arrowOf edge.kind).text := by
    cases arrowOf edge.kind <;> decide
  rw [edgeLine]
  cases hlabel : edge.label.bind shownText? with
  | none => simp only [Line.text, oneLine_append, hmarks, harrow, oneLine_nodeName, and_self]
  | some label =>
    obtain ⟨s, _, hs⟩ := Option.bind_eq_some_iff.mp hlabel
    have hline := oneLine_of_shownText? hs
    simp only [Line.text, oneLine_append, hmarks, harrow, oneLine_nodeName, hline, and_self]

/-- No line of a flowchart is broken by what it shows. -/
theorem oneLine_of_mem_lines {direction : String} (hd : OneLine direction) {line : Line}
    (h : line ∈ page.lines direction) : OneLine line.text := by
  cases drawn_of_mem_lines h with
  | header => exact oneLine_append.mpr ⟨by decide, hd⟩
  | note s => exact oneLine_append.mpr ⟨by decide, oneLine_sanitize s⟩
  | opening hb =>
    have hopen : OneLine "  subgraph s" ∧ OneLine "[\"" ∧ OneLine "\"]" := by decide
    simp only [Line.text, oneLine_append, hopen, oneLine_nat, oneLine_title hb, and_self]
  | closing => decide
  | inside hn => exact oneLine_node _ _ _
  | loose hid hn => exact oneLine_node _ _ _
  | edge hs ht => exact oneLine_edge page _

theorem split_flowchart {direction : String} (hd : OneLine direction) :
    ((page.flowchart direction).split '\n').toList.map (·.copy) =
      (page.lines direction).map Line.text := by
  have hlines : ∀ s ∈ (page.lines direction).map Line.text, '\n' ∉ s.toList := by
    intro s hs
    obtain ⟨line, hline, rfl⟩ := List.mem_map.mp hs
    exact oneLine_of_mem_lines hd hline
  have hsplit := String.toList_split_intercalate hlines
  rw [if_neg (by simp [lines])] at hsplit
  exact hsplit

end Page

end FlowBoard
