import FlowBoard.Proofs.Graph.Closure
import FlowBoard.Proofs.Mermaid.Lines
import FlowBoard.Proofs.Tree.Alike
import FlowBoard.Proofs.Tree.FlatPage

/-!
# Shapes and the sections around them

A node refers to the section around the last shape with its id, while a section lists the shapes
that are met after its last opening. `LeftBehind` says when the two part: the section is opened
again and the shape is not met after that. A section with an empty id lists nothing. In all other
cases the section lists the node; and a node that some section lists is drawn inside a block.
-/

namespace FlowBoard

variable {vs : List Visit} {sid nodeId : String}

/-! ## The section around a visit -/

namespace Visit

/-- Every visit stands inside the section that the walk came from or inside one that it opens. -/
def Nested (outer : Option String) (vs : List Visit) : Prop :=
  ∀ v ∈ vs, v.sectionId = outer ∨ ∃ id ∈ openedIds vs, v.sectionId = some id

namespace Nested

variable {outer : Option String} {ws : List Visit}

theorem append (h : Nested outer vs) (h' : Nested outer ws) : Nested outer (vs ++ ws) := by
  have hids : openedIds (vs ++ ws) = openedIds vs ++ openedIds ws := List.filterMap_append
  intro v hv
  rw [hids]
  rcases List.mem_append.mp hv with hv | hv
  · exact (h v hv).imp_right fun ⟨id, hid, he⟩ => ⟨id, List.mem_append_left _ hid, he⟩
  · exact (h' v hv).imp_right fun ⟨id, hid, he⟩ => ⟨id, List.mem_append_right _ hid, he⟩

/-- What is below an item stands inside it if it is a section. -/
theorem cons {item : Item} (children : Option (List Tree))
    (h : Nested (Tree.innerSection outer item) vs) :
    Nested outer (⟨.node item children, Tree.innerSection outer item⟩ :: vs) := by
  intro v hv
  have hinner : v.sectionId = Tree.innerSection outer item ∨
      ∃ id ∈ openedIds vs, v.sectionId = some id := by
    rcases List.mem_cons.mp hv with rfl | hv
    · exact Or.inl rfl
    · exact h v hv
  rcases hinner with htop | ⟨id, hid, he⟩
  · by_cases hkind : item.kind = Item.sectionKind
    · rw [Tree.innerSection, if_pos hkind] at htop
      refine Or.inr ⟨item.id, List.mem_filterMap.mpr ⟨_, List.mem_cons_self, ?_⟩, htop⟩
      exact if_pos hkind
    · rw [Tree.innerSection, if_neg hkind] at htop
      exact Or.inl htop
  · obtain ⟨u, hu, ho⟩ := List.mem_filterMap.mp hid
    exact Or.inr ⟨id, List.mem_filterMap.mpr ⟨u, List.mem_cons_of_mem _ hu, ho⟩, he⟩

end Nested

end Visit

namespace Tree

mutual

theorem nested_visits (outer : Option String) :
    (tree : Tree) → Visit.Nested outer (visits outer tree)
  | .node item none => by
    have hnone : Visit.Nested (innerSection outer item) [] := nofun
    exact hnone.cons none
  | .node item (some trees) => (nested_visitsAll (innerSection outer item) trees).cons (some trees)

theorem nested_visitsAll (outer : Option String) :
    (trees : List Tree) → Visit.Nested outer (visitsAll outer trees)
  | [] => nofun
  | tree :: rest => (nested_visits outer tree).append (nested_visitsAll outer rest)

end

end Tree

/-! ## What a section lists -/

namespace Visit

theorem exists_lastOpening? (h : sid ∈ openedIds vs) :
    ∃ before opening after, lastOpening? sid vs = some (before, opening, after) := by
  induction vs using List.reverseRecOn with
  | nil => cases h
  | append_singleton vs v ih =>
    rw [lastOpening?_concat]
    split_ifs with hv
    · exact ⟨vs, v, [], rfl⟩
    · rw [openedIds, List.filterMap_append, filterMap_singleton, List.mem_append,
        Option.mem_toList] at h
      obtain ⟨before, opening, after, hsplit⟩ := ih (h.resolve_right hv)
      exact ⟨before, opening, after ++ [v], by rw [hsplit]; rfl⟩

theorem suffix_of_lastOpening? {before after : List Visit} {opening : Visit}
    (h : lastOpening? sid vs = some (before, opening, after)) : after <:+ vs :=
  (List.suffix_cons opening after).trans ⟨before, (lastOpening?_eq_some_iff.mp h).1.symm⟩

theorem mem_membersIn_iff : nodeId ∈ membersIn sid vs ↔
    sid ≠ "" ∧ ∃ node ∈ nodes vs, node.sectionId = some sid ∧ node.id = nodeId := by
  rw [membersIn]
  split_ifs with hempty
  · simp [String.isEmpty_iff.mp hempty]
  · rw [String.isEmpty_iff] at hempty
    simp [hempty, and_assoc]

theorem id_of_sectionAt? {group : Section} (h : sectionAt? vs sid = some group) :
    group.id = sid := by
  obtain ⟨_, _, rfl⟩ := Option.map_eq_some_iff.mp h
  rfl

theorem mem_sections_iff {before after : List Visit} {opening : Visit}
    (h : lastOpening? sid vs = some (before, opening, after)) :
    (∃ group ∈ sections vs, group.id = sid ∧ nodeId ∈ group.members) ↔
      nodeId ∈ membersIn sid after := by
  obtain ⟨rfl, hopening, -⟩ := lastOpening?_eq_some_iff.mp h
  have hopened : sid ∈ openedIds (before ++ opening :: after) :=
    List.mem_filterMap.mpr ⟨opening, by simp, hopening⟩
  obtain ⟨group, hat, hmembers⟩ : ∃ group,
      sectionAt? (before ++ opening :: after) sid = some group ∧
        group.members = membersIn sid after :=
    ⟨_, by rw [sectionAt?, h]; rfl, rfl⟩
  rw [← hmembers]
  constructor
  · rintro ⟨listed, hlisted, hid, hmem⟩
    obtain ⟨other, hother, rfl⟩ := List.mem_map.mp (List.mem_filter.mp hlisted).1
    obtain ⟨otherId, -, hotherAt⟩ := List.mem_filterMap.mp hother
    obtain rfl : otherId = sid := (id_of_sectionAt? hotherAt).symm.trans hid
    obtain rfl := Option.some.inj (hotherAt.symm.trans hat)
    exact mem_distinct.mp hmem
  · intro hmem
    have hid : group.id = sid := id_of_sectionAt? hat
    have hkept : nodeId ∈ distinct group.members := mem_distinct.mpr hmem
    refine ⟨{ group with members := distinct group.members }, ?_, hid, hkept⟩
    refine List.mem_filter.mpr ⟨List.mem_map_of_mem (List.mem_filterMap.mpr
      ⟨sid, mem_distinct.mpr hopened, hat⟩), ?_⟩
    simpa using List.ne_nil_of_mem hkept

/-- The last of the nodes with an id comes from a visit after which no shape has that id. -/
theorem exists_visit_of_mem_lastNodes {node : Node} (h : node ∈ lastNodes (nodes vs)) :
    ∃ before v after, vs = before ++ v :: after ∧ v.node? = some node ∧
      node.id ∉ shapeIds after := by
  obtain ⟨id, -, hfound⟩ := List.mem_filterMap.mp h
  obtain rfl := (lastNode?_some hfound).2
  obtain ⟨front, back, hnodes, hlater⟩ := isLast_iff.mpr hfound
  obtain ⟨before, rest, rfl, -, hrest⟩ := List.filterMap_eq_append_iff.mp hnodes
  obtain ⟨skipped, v, after, rfl, -, hv, rfl⟩ := List.filterMap_eq_cons_iff.mp hrest
  refine ⟨before ++ skipped, v, after, by simp, hv, fun hmem => ?_⟩
  obtain ⟨later, hl, hid⟩ := List.mem_map.mp hmem
  exact hlater later hl hid

/-- The section is opened after the last shape with that id. -/
def LeftBehind (vs : List Visit) (nodeId sid : String) : Prop :=
  ∃ before opening after, vs = before ++ opening :: after ∧ opening.opened? = some sid ∧
    nodeId ∉ shapeIds after

theorem shapeIds_subset {vs ws : List Visit} (h : vs <:+ ws) : shapeIds vs ⊆ shapeIds ws :=
  ((h.sublist.filterMap node?).map Node.id).subset

/-- Of two ends of a list one is an end of the other. -/
theorem cons_suffix_or_suffix {v : Visit} {vs ws us : List Visit} (h : v :: vs <:+ us)
    (h' : ws <:+ us) : v :: vs <:+ ws ∨ ws <:+ vs := by
  rcases List.suffix_or_suffix_of_suffix h h' with h | h
  · exact Or.inl h
  · rcases List.suffix_cons_iff.mp h with rfl | h
    · exact Or.inl (List.suffix_refl _)
    · exact Or.inr h

/-- A shape is left behind by the last opening of a section, if by any. -/
theorem leftBehind_iff {before after : List Visit} {opening : Visit}
    (h : lastOpening? sid vs = some (before, opening, after)) :
    LeftBehind vs nodeId sid ↔ nodeId ∉ shapeIds after := by
  obtain ⟨hvs, hopening, hlast⟩ := lastOpening?_eq_some_iff.mp h
  refine ⟨?_, fun hnot => ⟨before, opening, after, hvs, hopening, hnot⟩⟩
  rintro ⟨front, other, back, hother, hopened, hnot⟩
  -- An opening cannot come after the last one, so what comes after the last one comes after it too.
  rcases cons_suffix_or_suffix ⟨front, hother.symm⟩ (suffix_of_lastOpening? h) with
    hlater | hearlier
  · exact absurd (List.mem_filterMap.mpr ⟨other, hlater.subset List.mem_cons_self, hopened⟩) hlast
  · exact fun hmem => hnot (shapeIds_subset hearlier hmem)

theorem sectionId_of_node? {v : Visit} {node : Node} (h : v.node? = some node) :
    node.sectionId = v.sectionId := by
  rw [node?] at h
  split_ifs at h
  cases h
  rfl

/-- The section around a shape lists it, unless its id is empty or the shape is left behind. -/
theorem listed_iff {node : Node} (hnested : Nested none vs) (hnode : node ∈ lastNodes (nodes vs))
    (hsid : node.sectionId = some sid) :
    (∃ group ∈ sections vs, group.id = sid ∧ node.id ∈ group.members) ↔
      sid ≠ "" ∧ ¬LeftBehind vs node.id sid := by
  obtain ⟨front, v, back, hvs, hv, hback⟩ := exists_visit_of_mem_lastNodes hnode
  have hmem : v ∈ vs := by simp [hvs]
  have hinside : v.sectionId = some sid := (sectionId_of_node? hv).symm.trans hsid
  obtain ⟨id, hopened, hid⟩ := (hnested v hmem).resolve_left (by simp [hinside])
  obtain rfl : sid = id := Option.some.inj (hinside.symm.trans hid)
  obtain ⟨before, opening, after, hlast⟩ := exists_lastOpening? hopened
  rw [mem_sections_iff hlast, mem_membersIn_iff, leftBehind_iff hlast, not_not]
  refine and_congr_right fun _ => ⟨?_, fun hafter => ⟨node, ?_, hsid, rfl⟩⟩
  · rintro ⟨other, hother, -, hid⟩
    exact hid ▸ List.mem_map_of_mem hother
  · -- Some shape with this id comes after the last opening, hence the last of them does.
    rcases cons_suffix_or_suffix ⟨front, hvs.symm⟩ (suffix_of_lastOpening? hlast) with
      hlater | hearlier
    · exact List.mem_filterMap.mpr ⟨v, hlater.subset List.mem_cons_self, hv⟩
    · exact absurd (shapeIds_subset hearlier hafter) hback

end Visit

/-! ## Drawn inside a block -/

open Mermaid

namespace Page

variable {page : Page}

/-- The line of the node stands between the opening line of a block and its closing line, with
nothing but lines of nodes around it. -/
def DrawnInside (page : Page) (direction : String) (node : Node) : Prop :=
  ∃ before number title ids after,
    page.lines direction = before ++ .opening number title ::
      (page.nodeLines page.shownIds true ids ++ .closing :: after) ∧
    node.line true (rankIn page.shownIds node.id) ∈ page.nodeLines page.shownIds true ids

theorem drawnInside_of_listed (hnodup : page.nodeIds.Nodup) {node : Node}
    (hnode : node ∈ page.nodes)
    (hlisted : ∃ group ∈ page.sections, node.id ∈ group.members) (direction : String) :
    page.DrawnInside direction node := by
  have hid : node.id ∈ page.nodeIds := List.mem_map_of_mem hnode
  obtain ⟨block, hblock, hmember⟩ := List.mem_flatMap.mp (mem_members_blocks.mpr ⟨hid, hlisted⟩)
  obtain ⟨earlier, later, hblocks⟩ := List.append_of_mem hblock
  obtain ⟨shown, hshown⟩ := exists_nodeOf? hid
  have hsame : shown.id = node.id := by simpa using List.find?_some hshown
  obtain rfl : shown = node :=
    List.inj_on_of_nodup_map hnodup (List.mem_of_find?_eq_some hshown) hnode hsame
  refine ⟨.header direction :: (page.noteLines ++ earlier.flatMap (page.blockLines page.shownIds)),
    block.number, block.title, block.members,
    later.flatMap (page.blockLines page.shownIds) ++
      page.nodeLines page.shownIds false page.looseIds ++ page.edgeLines page.shownIds, ?_,
    mem_nodeLines hmember hshown true⟩
  rw [lines, hblocks, List.flatMap_append, List.flatMap_cons]
  simp only [blockLines, List.append_assoc, List.cons_append, List.nil_append]

end Page

/-! ## The pages of a file -/

namespace TreeFile

/-- On every page of a file, a node that refers to a section is listed by it if and only if the id
of the section is not empty and the section is not opened again after the last shape with the id of
the node; and every node that a section lists is drawn inside a block. -/
theorem pages_group (file : TreeFile) : ∀ page ∈ file.pages,
    ∃ sheet ∈ file.sheets, ∃ n, page = sheet.numberedPage n ∧ ∀ node ∈ page.nodes,
      (∀ sid, node.sectionId = some sid →
        ((∃ group ∈ page.sections, group.id = sid ∧ node.id ∈ group.members) ↔
          sid ≠ "" ∧ ¬Visit.LeftBehind (sheet.visits none) node.id sid)) ∧
      ((∃ group ∈ page.sections, node.id ∈ group.members) →
        ∀ direction, page.DrawnInside direction node) := by
  intro page hpage
  rw [pages_eq] at hpage
  obtain ⟨⟨sheet, i⟩, hsheet, rfl⟩ := List.mem_map.mp hpage
  refine ⟨sheet, List.fst_mem_of_mem_zipIdx hsheet, i + 1, rfl, fun node hnode => ?_⟩
  refine ⟨fun sid hsid => ?_, fun hlisted direction => ?_⟩
  · have hflat : sheet.page sheet.item.id _ = Visit.flatPage (sheet.visits none) sheet.item.id
        (Text.orElse sheet.item.cleanName ("Page " ++ toString (i + 1))) :=
      (Summary.gather sheet).page_eq _ _
    change node ∈ (sheet.page _ _).nodes at hnode
    rw [hflat] at hnode
    change (∃ group ∈ (sheet.page _ _).sections, _) ↔ _
    rw [hflat]
    exact Visit.listed_iff (sheet.nested_visits none) hnode hsid
  · exact Page.drawnInside_of_listed (Page.canonical_prune _).nodup_nodeIds hnode hlisted direction

/-- A section whose id comes again, and one with an empty id. -/
def reopenedFile : TreeFile where
  root := .node { id := "0", kind := "DOCUMENT" } (some [
    .node { id := "s", kind := Item.sectionKind, name := some "First" } (some [
      .node { id := "a", kind := Item.shapeKind, name := some "A" } none]),
    .node { id := "s", kind := Item.sectionKind, name := some "Second" } (some [
      .node { id := "b", kind := Item.shapeKind, name := some "B" } none]),
    .node { id := "", kind := Item.sectionKind, name := some "Third" } (some [
      .node { id := "c", kind := Item.shapeKind, name := some "C" } none])])

def reopenedPage : Page where
  id := "0"
  name := "Page 1"
  nodes := [{ id := "a", label := "A", sectionId := some "s" },
    { id := "b", label := "B", sectionId := some "s" },
    { id := "c", label := "C", sectionId := some "" }]
  sections := [{ id := "s", label := "Second", members := ["b"] }]

theorem reopenedFile_groups : reopenedPage ∈ reopenedFile.pages ∧
    ∃ sheet ∈ reopenedFile.sheets, ∃ node ∈ reopenedPage.nodes, node.sectionId = some "s" ∧
      ((∃ group ∈ reopenedPage.sections, group.id = "s" ∧ node.id ∈ group.members) ↔
        "s" ≠ "" ∧ ¬Visit.LeftBehind (sheet.visits none) node.id "s") ∧
      (∃ group ∈ reopenedPage.sections, node.id ∈ group.members) ∧
      reopenedPage.DrawnInside "TD" node := by
  have hpage : reopenedPage ∈ reopenedFile.pages := by decide
  have hnode : { id := "b", label := "B", sectionId := some "s" } ∈ reopenedPage.nodes := by decide
  have hlisted : ∃ group ∈ reopenedPage.sections, "b" ∈ group.members := by decide
  obtain ⟨sheet, hsheet, n, -, hgroups⟩ := pages_group reopenedFile reopenedPage hpage
  obtain ⟨href, hdrawn⟩ := hgroups _ hnode
  exact ⟨hpage, sheet, hsheet, _, hnode, rfl, href "s" rfl, hlisted, hdrawn hlisted "TD"⟩

/-- Two of the three nodes are in no section. -/
theorem reopenedFile_loses :
    ¬(∀ page ∈ reopenedFile.pages, ∀ node ∈ page.nodes, ∀ sid, node.sectionId = some sid →
      ∃ group ∈ page.sections, group.id = sid ∧ node.id ∈ group.members) ∧
    reopenedPage ∈ reopenedFile.pages ∧
    (∀ group ∈ reopenedPage.sections, "a" ∉ group.members ∧ "c" ∉ group.members) ∧
    ∀ node ∈ reopenedPage.nodes, node.sectionId ≠ none := by
  have hpage : reopenedPage ∈ reopenedFile.pages := by decide
  have hnode : { id := "a", label := "A", sectionId := some "s" } ∈ reopenedPage.nodes := by decide
  have hlost : ∀ group ∈ reopenedPage.sections, "a" ∉ group.members ∧ "c" ∉ group.members := by
    decide
  refine ⟨fun h => ?_, hpage, hlost, by decide⟩
  obtain ⟨group, hgroup, -, hmem⟩ := h reopenedPage hpage _ hnode "s" rfl
  exact (hlost group hgroup).1 hmem

end TreeFile

end FlowBoard
