import FlowBoard.Proofs.Mermaid.Lines
import FlowBoard.Proofs.Mermaid.Unshown
import Mathlib.Data.List.Find
import Mathlib.Data.Set.Function
import Mathlib.Logic.Equiv.Basic

/-!
# Ids are not shown

The ids of nodes say which node an edge or a section means, and are shown only in the place of a
label of which nothing is left. `renamed` gives other ids to the nodes, everywhere on the page, and
`anonymous` takes off all that only identifies: the page's id and name, the ids of sections and
notes, and the references of nodes to sections. Neither changes the flowchart, whatever ids are
repeated on the page and whatever ids stand on it without a node.
-/

namespace FlowBoard

/-! ## Lists of renamed ids -/

section Lists

variable {κ ι : Type} [DecidableEq κ] [DecidableEq ι] {S : Set κ} {f : κ → ι} (hf : S.InjOn f)

include hf

omit [DecidableEq κ] [DecidableEq ι] in
theorem mem_map_of_injOn {k : κ} {ks : List κ} (hk : k ∈ S) (hks : ∀ k ∈ ks, k ∈ S) :
    f k ∈ ks.map f ↔ k ∈ ks := by
  constructor
  · intro h
    obtain ⟨k', hk', he⟩ := List.mem_map.mp h
    exact hf (hks k' hk') hk he ▸ hk'
  · exact List.mem_map_of_mem

theorem distinct_map {ks : List κ} (hks : ∀ k ∈ ks, k ∈ S) :
    distinct (ks.map f) = (distinct ks).map f := by
  induction ks with
  | nil => rfl
  | cons k rest ih =>
    obtain ⟨hk, hrest⟩ := List.forall_mem_cons.mp hks
    rw [List.map_cons, distinct, distinct, ih hrest, List.filter_map, List.map_cons]
    congr 2
    refine List.filter_congr fun k' hk' => ?_
    have hsame : f k' = f k ↔ k' = k := hf.eq_iff (hrest k' (mem_distinct.mp hk')) hk
    simpa using hsame

theorem idxOf?_map {k : κ} {ks : List κ} (hk : k ∈ S) (hks : ∀ k ∈ ks, k ∈ S) :
    (ks.map f).idxOf? (f k) = ks.idxOf? k := by
  induction ks with
  | nil => rfl
  | cons first rest ih =>
    obtain ⟨hfirst, hrest⟩ := List.forall_mem_cons.mp hks
    have hsame : (f first == f k) = (first == k) := by
      rw [Bool.eq_iff_iff, beq_iff_eq, beq_iff_eq, hf.eq_iff hfirst hk]
    rw [List.map_cons, List.idxOf?_cons, List.idxOf?_cons, ih hrest, hsame]

end Lists

/-! ## Renaming -/

def Node.renamed (f : String → String) (node : Node) : Node := { node with id := f node.id }

def Edge.renamed (f : String → String) (edge : Edge) : Edge :=
  { edge with source := f edge.source, target := f edge.target }

def Section.renamed (f : String → String) (group : Section) : Section :=
  { group with members := group.members.map f }

/-- A label of which something is left is shown without regard to the id. -/
theorem Node.line_renamed {node : Node} (h : Mermaid.sanitize node.label ≠ "")
    (f : String → String) (inside : Bool) (rank : Nat) :
    (node.renamed f).line inside rank = node.line inside rank := by
  have hshown : shownText? node.label = some (Mermaid.sanitize node.label) := by
    rw [Page.shownText?_eq, if_neg h]
  have hlabel : (node.renamed f).shownLabel rank = node.shownLabel rank := by
    rw [Node.shownLabel, Node.shownLabel, Node.renamed, hshown, Option.getD_some, Option.getD_some]
  rw [Node.line, Node.line, hlabel]
  rfl

namespace Page

open Mermaid

/-- The page with `f` applied to the ids of nodes, wherever they stand. -/
def renamed (f : String → String) (page : Page) : Page :=
  { page with
    nodes := page.nodes.map (Node.renamed f)
    edges := page.edges.map (Edge.renamed f)
    sections := page.sections.map (Section.renamed f) }

/-- The ids of nodes that stand on a page, also those of nodes that it lacks. -/
def mentionedIds (page : Page) : List String :=
  page.nodeIds ++ page.edges.flatMap (fun edge => [edge.source, edge.target]) ++
    page.sections.flatMap Section.members

variable {page : Page} {f : String → String}

theorem mem_mentionedIds_of_mem_nodeIds {id : String} (h : id ∈ page.nodeIds) :
    id ∈ page.mentionedIds :=
  List.mem_append_left _ (List.mem_append_left _ h)

theorem mem_mentionedIds_of_mem_edges {edge : Edge} (h : edge ∈ page.edges) :
    edge.source ∈ page.mentionedIds ∧ edge.target ∈ page.mentionedIds := by
  have hends : ∀ id ∈ [edge.source, edge.target], id ∈ page.mentionedIds := fun id hid =>
    List.mem_append_left _ (List.mem_append_right _ (List.mem_flatMap.mpr ⟨edge, h, hid⟩))
  exact ⟨hends _ (by simp), hends _ (by simp)⟩

theorem mem_mentionedIds_of_mem_sections {group : Section} (h : group ∈ page.sections) :
    ∀ id ∈ group.members, id ∈ page.mentionedIds := fun _ hid =>
  List.mem_append_right _ (List.mem_flatMap.mpr ⟨group, h, hid⟩)

theorem nodeIds_renamed (f : String → String) (page : Page) :
    (page.renamed f).nodeIds = page.nodeIds.map f := by
  rw [nodeIds, renamed, List.map_map, nodeIds, List.map_map]
  rfl

section Injective

variable (hf : Set.InjOn f {id | id ∈ page.mentionedIds})

include hf

theorem mem_nodeIds_renamed {id : String} (hid : id ∈ page.mentionedIds) :
    f id ∈ (page.renamed f).nodeIds ↔ id ∈ page.nodeIds := by
  rw [nodeIds_renamed]
  exact mem_map_of_injOn hf hid fun _ => mem_mentionedIds_of_mem_nodeIds

theorem shownIds_renamed : (page.renamed f).shownIds = page.shownIds.map f := by
  rw [shownIds, nodeIds_renamed, distinct_map hf fun _ => mem_mentionedIds_of_mem_nodeIds, shownIds]

theorem rankIn_renamed {id : String} (hid : id ∈ page.mentionedIds) :
    rankIn (page.renamed f).shownIds (f id) = rankIn page.shownIds id := by
  have hshown : ∀ id ∈ page.shownIds, id ∈ page.mentionedIds := fun id h =>
    mem_mentionedIds_of_mem_nodeIds (mem_distinct.mp h)
  rw [shownIds_renamed hf, rankIn, idxOf?_map hf hid hshown, rankIn]

theorem nodeOf?_renamed {id : String} (hid : id ∈ page.mentionedIds) :
    (page.renamed f).nodeOf? (f id) = (page.nodeOf? id).map (Node.renamed f) := by
  have hsame : page.nodes.find? (fun node => (node.renamed f).id == f id) =
      page.nodes.find? (·.id == id) := by
    refine List.find?_congr fun node hnode => ?_
    have hown : node.id ∈ page.mentionedIds :=
      mem_mentionedIds_of_mem_nodeIds (List.mem_map_of_mem hnode)
    rw [Bool.eq_iff_iff, beq_iff_eq, beq_iff_eq]
    exact hf.eq_iff hown hid
  rw [nodeOf?, renamed, List.find?_map]
  exact congrArg _ hsame

/-- Whether sections list a node does not depend on the names of nodes. -/
theorem all_not_contains_renamed {groups : List Section} (hgroups : groups ⊆ page.sections)
    {id : String} (hid : id ∈ page.mentionedIds) :
    ((groups.map (Section.renamed f)).all fun g => !g.members.contains (f id)) =
      groups.all fun g => !g.members.contains id := by
  rw [Bool.eq_iff_iff, List.all_eq_true, List.all_eq_true, List.forall_mem_map]
  refine forall₂_congr fun group hgroup => ?_
  have hlisted : f id ∈ group.members.map f ↔ id ∈ group.members :=
    mem_map_of_injOn hf hid (mem_mentionedIds_of_mem_sections (hgroups hgroup))
  rw [Section.renamed]
  simpa using not_congr hlisted

theorem firstListed_renamed {earlier : List Section} {group : Section}
    (hearlier : earlier ⊆ page.sections) (hgroup : group ∈ page.sections) :
    (page.renamed f).firstListed (earlier.map (Section.renamed f)) (group.renamed f) =
      (page.firstListed earlier group).map f := by
  have hmembers := mem_mentionedIds_of_mem_sections hgroup
  rw [firstListed, Section.renamed, distinct_map hf hmembers, List.filter_map, firstListed]
  congr 1
  refine List.filter_congr fun id hid => ?_
  have hid : id ∈ page.mentionedIds := hmembers id (mem_distinct.mp hid)
  have hnode : (page.renamed f).hasNode (f id) = page.hasNode id := by
    rw [Bool.eq_iff_iff, hasNode_iff, hasNode_iff, mem_nodeIds_renamed hf hid]
  rw [Function.comp_apply, hnode, all_not_contains_renamed hf hearlier hid]

theorem unlisted_renamed : (page.renamed f).unlisted = page.unlisted.map f := by
  rw [unlisted, shownIds_renamed hf, List.filter_map, unlisted]
  congr 1
  refine List.filter_congr fun id hid => ?_
  have hid : id ∈ page.mentionedIds := mem_mentionedIds_of_mem_nodeIds (mem_distinct.mp hid)
  exact all_not_contains_renamed hf (List.Subset.refl _) hid

theorem linkedEdges_renamed :
    (page.renamed f).linkedEdges = page.linkedEdges.map (Edge.renamed f) := by
  rw [linkedEdges, renamed, List.filter_map, linkedEdges]
  congr 1
  refine List.filter_congr fun edge hedge => ?_
  obtain ⟨hsource, htarget⟩ := mem_mentionedIds_of_mem_edges hedge
  rw [Function.comp_apply, decide_eq_decide]
  exact and_congr (mem_nodeIds_renamed hf hsource) (mem_nodeIds_renamed hf htarget)

theorem edgeLine_renamed {edge : Edge} (h : edge ∈ page.edges) :
    (page.renamed f).edgeLine (edge.renamed f) = page.edgeLine edge := by
  obtain ⟨hsource, htarget⟩ := mem_mentionedIds_of_mem_edges h
  rw [edgeLine, Edge.renamed, rankIn_renamed hf hsource, rankIn_renamed hf htarget, edgeLine]

variable (hlabels : ∀ node ∈ page.nodes, sanitize node.label ≠ "")

include hlabels

theorem nodeLines_renamed {ids : List String} (hids : ∀ id ∈ ids, id ∈ page.mentionedIds)
    (inside : Bool) :
    (page.renamed f).nodeLines (page.renamed f).shownIds inside (ids.map f) =
      page.nodeLines page.shownIds inside ids := by
  rw [nodeLines, List.filterMap_map, nodeLines]
  refine List.filterMap_congr fun id hid => ?_
  rw [Function.comp_apply, nodeOf?_renamed hf (hids id hid), Option.map_map,
    rankIn_renamed hf (hids id hid)]
  refine Option.map_congr fun node hnode => ?_
  exact Node.line_renamed (hlabels node (List.mem_of_find?_eq_some hnode)) f inside _

theorem groupLines_renamed {earlier : List Section} {group : Section}
    (hearlier : earlier ⊆ page.sections) (hgroup : group ∈ page.sections) :
    (page.renamed f).groupLines (earlier.map (Section.renamed f)) (group.renamed f) =
      page.groupLines earlier group := by
  have hids : ∀ id ∈ page.firstListed earlier group, id ∈ page.mentionedIds := fun id hid =>
    mem_mentionedIds_of_mem_sections hgroup id (mem_firstListed.mp hid).1
  rw [groupLines, firstListed_renamed hf hearlier hgroup, groupLines]
  simp only [List.isEmpty_map, List.length_map, nodeLines_renamed hf hlabels hids]
  rfl

theorem lines_renamed (direction : String) :
    (page.renamed f).lines direction = page.lines direction := by
  have hloose : ∀ id ∈ page.unlisted, id ∈ page.mentionedIds := fun id hid =>
    mem_mentionedIds_of_mem_nodeIds (mem_distinct.mp (List.mem_filter.mp hid).1)
  have hedges : (page.linkedEdges.map (Edge.renamed f)).map (page.renamed f).edgeLine =
      page.linkedEdges.map page.edgeLine := by
    rw [List.map_map]
    exact List.map_congr_left fun edge h => edgeLine_renamed hf (List.mem_filter.mp h).1
  rw [lines_eq, lines_eq, flatMap_groupLines_map rfl fun _ _ => groupLines_renamed hf hlabels,
    unlisted_renamed hf, nodeLines_renamed hf hlabels hloose, linkedEdges_renamed hf, hedges]
  rfl

theorem mermaid?_renamed (given : Option String) :
    (page.renamed f).mermaid? given = page.mermaid? given := by
  have hplaces : Direction.places (page.renamed f).nodes = Direction.places page.nodes :=
    List.filterMap_map
  exact mermaid?_congr hplaces (lines_renamed hf hlabels) given

end Injective

end Page

/-! ## Pages that differ in what identifies only -/

def Section.anonymous (group : Section) : Section := { group with id := "" }

def StickyNote.anonymous (note : StickyNote) : StickyNote := { note with id := "" }

namespace Page

open Mermaid

/-- The page without its id and name, the ids of sections and notes, and the references of nodes to
sections. -/
def anonymous (page : Page) : Page :=
  { page.untagged with
    id := ""
    name := ""
    sections := page.sections.map Section.anonymous
    stickies := page.stickies.map StickyNote.anonymous }

theorem lines_anonymous (page : Page) (direction : String) :
    page.anonymous.lines direction = page.untagged.lines direction := by
  have hnotes : page.anonymous.noteTexts = page.untagged.noteTexts := by
    rw [noteTexts, anonymous, List.map_map]
    rfl
  have hids : page.anonymous.nodeIds = page.untagged.nodeIds := rfl
  have hmembers : ∀ group : Section, group.anonymous.members = group.members := fun _ => rfl
  have hsections : page.anonymous.sections = page.untagged.sections.map Section.anonymous := rfl
  have hnodes : page.anonymous.nodeLines = page.untagged.nodeLines := rfl
  have hedges : page.anonymous.linkedEdges.map page.anonymous.edgeLine =
      page.untagged.linkedEdges.map page.untagged.edgeLine := rfl
  exact lines_congr hids hmembers hsections hnodes (fun _ => rfl) hnotes hedges direction

theorem mermaid?_anonymous (page : Page) (given : Option String) :
    page.anonymous.mermaid? given = page.mermaid? given := by
  have hplaces : Direction.places page.anonymous.nodes = Direction.places page.untagged.nodes := rfl
  exact (mermaid?_congr hplaces page.lines_anonymous given).trans (page.mermaid?_untagged given)

/-- If something is left of every label, then the flowchart of a page is the same for any ids of
its nodes, as long as different ones stay different, and for any page id and name, ids of sections
and notes, and references of nodes to sections. -/
theorem mermaid?_eq_of_renamed {page other : Page} {f : String → String}
    (hlabels : ∀ node ∈ page.nodes, sanitize node.label ≠ "")
    (hf : Set.InjOn f {id | id ∈ page.mentionedIds})
    (h : other.anonymous = (page.renamed f).anonymous) (given : Option String) :
    other.mermaid? given = page.mermaid? given :=
  calc other.mermaid? given
      = other.anonymous.mermaid? given := (mermaid?_anonymous other given).symm
    _ = (page.renamed f).anonymous.mermaid? given := by rw [h]
    _ = (page.renamed f).mermaid? given := mermaid?_anonymous (page.renamed f) given
    _ = page.mermaid? given := mermaid?_renamed hf hlabels given

/-- A page with a repeated node id, a section that lists a node twice and an edge to an unknown
node. -/
def oneSpelling : Page where
  id := "p"
  name := "First"
  nodes := [⟨"a", "Start", none, none, none, some "s"⟩,
    ⟨"b", "Choose", some "DIAMOND", none, none, none⟩, ⟨"a", "Again", none, none, none, none⟩]
  edges := [⟨"a", "b", some "yes", "line"⟩, ⟨"b", "gone", none, "arrow"⟩]
  sections := [⟨"s", "One", ["a", "a", "gone"]⟩, ⟨"t", "Two", ["b", "a"]⟩]
  stickies := [⟨"n", "note"⟩]

/-- The same page where the ids of the two nodes change places. -/
def otherSpelling : Page where
  id := "q"
  name := "Second"
  nodes := [⟨"b", "Start", none, none, none, none⟩,
    ⟨"a", "Choose", some "DIAMOND", none, none, some "u"⟩,
    ⟨"b", "Again", none, none, none, some "t"⟩]
  edges := [⟨"b", "a", some "yes", "line"⟩, ⟨"a", "gone", none, "arrow"⟩]
  sections := [⟨"", "One", ["b", "b", "gone"]⟩, ⟨"", "Two", ["a", "b"]⟩]
  stickies := [⟨"m", "note"⟩]

theorem otherSpelling_mermaid? :
    (∀ node ∈ oneSpelling.nodes, sanitize node.label ≠ "") ∧
    Set.InjOn (Equiv.swap "a" "b") {id | id ∈ oneSpelling.mentionedIds} ∧
    otherSpelling.anonymous = (oneSpelling.renamed (Equiv.swap "a" "b")).anonymous ∧
    otherSpelling.mermaid? none = oneSpelling.mermaid? none := by
  have hlabels : ∀ node ∈ oneSpelling.nodes, sanitize node.label ≠ "" := by decide
  have hf : Set.InjOn (Equiv.swap "a" "b") {id | id ∈ oneSpelling.mentionedIds} :=
    (Equiv.swap "a" "b").injective.injOn
  have h : otherSpelling.anonymous = (oneSpelling.renamed (Equiv.swap "a" "b")).anonymous := by
    decide
  exact ⟨hlabels, hf, h, mermaid?_eq_of_renamed hlabels hf h none⟩

end Page

end FlowBoard
