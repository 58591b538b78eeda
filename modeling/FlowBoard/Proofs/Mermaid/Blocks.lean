import FlowBoard.Mermaid.Flowchart
import FlowBoard.Proofs.Graph.Nodes

/-!
# Blocks of a flowchart

A section is drawn as a block of the node ids that it is the first to list. `blocks_eq` says so
without the ids placed before, which the definition of `blocks` carries along. Every id stands in
one block at most, and in none exactly when no section lists it.
-/

namespace FlowBoard

namespace Page

variable (page : Page)

/-- The node ids that a section lists and none of the `earlier` ones does, in its order. -/
def firstListed (earlier : List Section) (group : Section) : List String :=
  (distinct group.members).filter fun id =>
    page.hasNode id && earlier.all fun g => !g.members.contains id

/-- The block of a section, unless all its nodes are listed by `earlier` ones. -/
def block? (earlier : List Section) (group : Section) : Option Block :=
  if (page.firstListed earlier group).isEmpty then none
  else some {
    number := earlier.length + 1
    title := (shownText? group.label).getD ("Section " ++ toString (earlier.length + 1))
    members := page.firstListed earlier group }

variable {page}

theorem mem_firstListed {earlier : List Section} {group : Section} {id : String} :
    id ∈ page.firstListed earlier group ↔
      id ∈ group.members ∧ id ∈ page.nodeIds ∧ ∀ g ∈ earlier, id ∉ g.members := by
  simp [firstListed, hasNode]

theorem firstListed_sublist (earlier : List Section) (group : Section) :
    (page.firstListed earlier group).Sublist group.members :=
  List.filter_sublist.trans (distinct_sublist _)

/-- The ids in earlier blocks are the node ids that earlier sections list. -/
def Placed (page : Page) (placed : List String) (earlier : List Section) : Prop :=
  ∀ id ∈ page.nodeIds, id ∈ placed ↔ ∃ g ∈ earlier, id ∈ g.members

theorem Placed.members_eq {placed : List String} {earlier : List Section}
    (h : page.Placed placed earlier) (group : Section) :
    ((distinct group.members).filter fun id => page.hasNode id && !placed.contains id) =
      page.firstListed earlier group := by
  apply List.filter_congr
  intro id _
  by_cases hid : id ∈ page.nodeIds
  · have hplaced := h id hid
    rw [Bool.eq_iff_iff]
    simp only [Bool.and_eq_true, hasNode_iff, Bool.not_eq_true', List.all_eq_true,
      List.contains_eq_mem, decide_eq_false_iff_not, hplaced, not_exists, not_and]
  · have hnot : page.hasNode id = false := by simpa [hasNode] using hid
    rw [hnot, Bool.false_and, Bool.false_and]

/-- A section adds to the placed ids those that it is the first to list. -/
theorem Placed.step {placed : List String} {earlier : List Section}
    (h : page.Placed placed earlier) (group : Section) :
    page.Placed (placed ++ page.firstListed earlier group) (earlier ++ [group]) := by
  intro id hid
  simp only [List.mem_append, h id hid, mem_firstListed, List.mem_singleton]
  constructor
  · rintro (⟨g, hg, hm⟩ | ⟨hm, _⟩)
    · exact ⟨g, Or.inl hg, hm⟩
    · exact ⟨group, Or.inr rfl, hm⟩
  · rintro ⟨g, hg | rfl, hm⟩
    · exact Or.inl ⟨g, hg, hm⟩
    · by_cases hlisted : ∃ g' ∈ earlier, id ∈ g'.members
      · exact Or.inl hlisted
      · exact Or.inr ⟨hm, hid, fun g' hg' hm' => hlisted ⟨g', hg', hm'⟩⟩

theorem blocksFrom_eq {placed : List String} {earlier groups : List Section}
    (hsections : page.sections = earlier ++ groups) (h : page.Placed placed earlier) :
    page.blocksFrom placed (earlier.length + 1) groups =
      (groups.zipIdx earlier.length).filterMap fun (group, i) =>
        page.block? (page.sections.take i) group := by
  -- Sections that were met move into `earlier`, and the ids that they list into `placed`.
  induction groups generalizing placed earlier with
  | nil => rfl
  | cons group rest ih =>
    have htake : page.sections.take earlier.length = earlier := by
      rw [hsections, List.take_left]
    have hsections' : page.sections = (earlier ++ [group]) ++ rest := by simp [hsections]
    have hrest := ih hsections' (h.step group)
    rw [List.length_append, List.length_singleton] at hrest
    rw [blocksFrom, h.members_eq, List.zipIdx_cons, List.filterMap_cons]
    simp only [htake, block?]
    split_ifs with hnone
    · rw [List.isEmpty_iff.mp hnone, List.append_nil] at hrest
      exact hrest
    · exact congrArg _ hrest

/-- A section has a block exactly when it lists a node id that no earlier section lists. -/
theorem blocks_eq (page : Page) : page.blocks =
    page.sections.zipIdx.filterMap fun (group, i) =>
      page.block? (page.sections.take i) group := by
  have hnone : page.Placed [] [] := by simp [Placed]
  exact blocksFrom_eq rfl hnone

/-! ## Ids in blocks -/

/-- The node ids in a section that are not placed yet. -/
def unplaced (page : Page) (placed : List String) (group : Section) : List String :=
  (distinct group.members).filter fun id => page.hasNode id && !placed.contains id

theorem mem_unplaced {placed : List String} {group : Section} {id : String} :
    id ∈ page.unplaced placed group ↔ id ∈ group.members ∧ id ∈ page.nodeIds ∧ id ∉ placed := by
  simp [unplaced, hasNode]

theorem members_blocksFrom_cons (page : Page) (placed : List String) (number : Nat)
    (group : Section) (rest : List Section) :
    (page.blocksFrom placed number (group :: rest)).flatMap Block.members =
      page.unplaced placed group ++
        (page.blocksFrom (placed ++ page.unplaced placed group) (number + 1) rest).flatMap
          Block.members := by
  rw [blocksFrom]
  change (if (page.unplaced placed group).isEmpty then _ else _ : List Block).flatMap _ = _
  split_ifs with hnone
  · rw [List.isEmpty_iff.mp hnone, List.append_nil, List.nil_append]
  · rfl

theorem mem_blocksFrom {placed : List String} {number : Nat} {groups : List Section} {id : String} :
    id ∈ (page.blocksFrom placed number groups).flatMap Block.members ↔
      id ∈ page.nodeIds ∧ id ∉ placed ∧ ∃ g ∈ groups, id ∈ g.members := by
  induction groups generalizing placed number with
  | nil => simp [blocksFrom]
  | cons group rest ih =>
    rw [members_blocksFrom_cons, List.mem_append, mem_unplaced, ih, List.mem_append, mem_unplaced]
    simp only [List.mem_cons, exists_eq_or_imp]
    tauto

theorem nodup_blocksFrom (page : Page) (placed : List String) (number : Nat)
    (groups : List Section) :
    ((page.blocksFrom placed number groups).flatMap Block.members).Nodup := by
  induction groups generalizing placed number with
  | nil => exact List.nodup_nil
  | cons group rest ih =>
    rw [members_blocksFrom_cons]
    refine List.Nodup.append ((nodup_distinct _).filter _) (ih _ _) ?_
    intro id hid hlater
    exact (mem_blocksFrom.mp hlater).2.1 (List.mem_append_right _ hid)

theorem number_le_blocksFrom {placed : List String} {number : Nat} {groups : List Section}
    {block : Block} (h : block ∈ page.blocksFrom placed number groups) : number ≤ block.number := by
  induction groups generalizing placed number with
  | nil => simp [blocksFrom] at h
  | cons group rest ih =>
    rw [blocksFrom] at h
    split_ifs at h
    · exact Nat.le_of_succ_le (ih h)
    · rcases List.mem_cons.mp h with rfl | h
      · exact Nat.le_refl _
      · exact Nat.le_of_succ_le (ih h)

theorem nodup_numbers_blocksFrom (page : Page) (placed : List String) (number : Nat)
    (groups : List Section) : ((page.blocksFrom placed number groups).map Block.number).Nodup := by
  induction groups generalizing placed number with
  | nil => exact List.nodup_nil
  | cons group rest ih =>
    rw [blocksFrom]
    split_ifs
    · exact ih _ _
    · rw [List.map_cons, List.nodup_cons]
      refine ⟨?_, ih _ _⟩
      intro hmem
      obtain ⟨block, hb, he⟩ := List.mem_map.mp hmem
      have hle := number_le_blocksFrom hb
      have hnumber : block.number = number := he
      omega

theorem mem_members_blocks {id : String} :
    id ∈ page.blocks.flatMap Block.members ↔
      id ∈ page.nodeIds ∧ ∃ g ∈ page.sections, id ∈ g.members := by
  rw [blocks, mem_blocksFrom]
  simp

theorem mem_looseIds {id : String} :
    id ∈ page.looseIds ↔ id ∈ page.nodeIds ∧ ∀ g ∈ page.sections, id ∉ g.members := by
  simp only [looseIds, List.mem_filter, shownIds, mem_distinct, Bool.not_eq_true',
    List.contains_eq_mem, decide_eq_false_iff_not, mem_members_blocks, not_and, not_exists]
  tauto

/-- The ids in order of their node lines: those in blocks, and then the others. -/
def drawnIds (page : Page) : List String := page.blocks.flatMap Block.members ++ page.looseIds

theorem mem_drawnIds {id : String} : id ∈ page.drawnIds ↔ id ∈ page.nodeIds := by
  rw [drawnIds, List.mem_append, mem_members_blocks, mem_looseIds]
  by_cases h : ∃ g ∈ page.sections, id ∈ g.members
  · exact ⟨fun hid => hid.elim And.left And.left, fun hid => Or.inl ⟨hid, h⟩⟩
  · refine ⟨fun hid => hid.elim And.left And.left, fun hid => Or.inr ⟨hid, ?_⟩⟩
    exact fun g hg hm => h ⟨g, hg, hm⟩

theorem nodup_drawnIds (page : Page) : page.drawnIds.Nodup := by
  refine List.Nodup.append (nodup_blocksFrom _ _ _ _) ((nodup_distinct _).filter _) ?_
  intro id hblock hloose
  obtain ⟨_, g, hg, hm⟩ := mem_members_blocks.mp hblock
  exact (mem_looseIds.mp hloose).2 g hg hm

end Page

end FlowBoard
