import FlowBoard.Proofs.Layout.Counting
import FlowBoard.Proofs.Mermaid.Direction
import FlowBoard.Proofs.Mermaid.Renamed
import FlowBoard.Proofs.Number.Order

/-!
# Layout and direction see the graph only

The topology of a page counts its nodes, edges and sections and compares degrees, so it does not
depend on the order of the lists, on the names of nodes, or on anything that is shown. The
direction of flow compares the spreads of coordinates. Each spread is taken between a greatest and
a least coordinate, whose positions do not depend on the order of the nodes; so neither does the
direction, and nodes without a place do not count.
-/

namespace FlowBoard

/-! ## Spreads of finite coordinates -/

namespace Direction

variable {xs ys : List Finite} {nodes others : List Node}

open Number

theorem exists_spread? (h : xs ≠ []) :
    ∃ top ∈ xs, ∃ bottom ∈ xs, (∀ x ∈ xs, bottom.units ≤ x.units ∧ x.units ≤ top.units) ∧
      spread? (xs.map ofFinite) = some (.binary (.sub (.finite top) (.finite bottom))) := by
  cases xs with
  | nil => exact absurd rfl h
  | cons first rest =>
    obtain ⟨top, htop, hgreatest, hupper⟩ := exists_greatest first rest
    obtain ⟨bottom, hbottom, hleast, hlower⟩ := exists_least first rest
    refine ⟨top, htop, bottom, hbottom, fun x hx => ⟨hlower x hx, hupper x hx⟩, ?_⟩
    rw [List.map_cons, spread?, hgreatest, hleast]
    rfl

/-- The position of a spread does not depend on the order of the numbers. -/
theorem exists_spread?_of_perm (h : xs.Perm ys) (hne : xs ≠ []) :
    ∃ d d', spread? (xs.map ofFinite) = some d ∧ spread? (ys.map ofFinite) = some d' ∧
      d.position = d'.position := by
  have hne' : ys ≠ [] := fun hys => hne (List.perm_nil.mp (hys ▸ h))
  obtain ⟨top, htop, bottom, hbottom, hwithin, hspread⟩ := exists_spread? hne
  obtain ⟨top', htop', bottom', hbottom', hwithin', hspread'⟩ := exists_spread? hne'
  have hupper : top.units = top'.units :=
    Int.le_antisymm (hwithin' top (h.mem_iff.mp htop)).2 (hwithin top' (h.mem_iff.mpr htop')).2
  have hlower : bottom.units = bottom'.units :=
    Int.le_antisymm (hwithin bottom' (h.mem_iff.mpr hbottom')).1
      (hwithin' bottom (h.mem_iff.mp hbottom)).1
  exact ⟨_, _, hspread, hspread', Binary64.position_sub hupper hlower⟩

/-! ## The direction -/

theorem detect?_eq (nodes : List Node) : detect? nodes =
    if (places nodes).length < 2 then some .td
    else (spread? ((places nodes).map (·.1))).bind fun width =>
      (spread? ((places nodes).map (·.2))).map fun height =>
        if height.atMost width then .lr else .td := by
  rw [detect?]
  split_ifs with h
  · rfl
  · cases spread? ((places nodes).map (·.1)) with
    | none => rfl
    | some width =>
      cases spread? ((places nodes).map (·.2)) with
      | none => rfl
      | some height => rfl

/-- Both coordinates of a place, as finite numbers. -/
def IsFinitePlace (place : Number × Number) : Prop :=
  ∃ x y : Finite, place = (ofFinite x, ofFinite y)

theorem exists_finitePlaces {found : List (Number × Number)} (h : ∀ p ∈ found, IsFinitePlace p) :
    ∃ ps : List (Finite × Finite), found = ps.map (Prod.map ofFinite ofFinite) := by
  induction found with
  | nil => exact ⟨[], rfl⟩
  | cons place rest ih =>
    obtain ⟨⟨x, y, rfl⟩, hrest⟩ := List.forall_mem_cons.mp h
    obtain ⟨ps, rfl⟩ := ih hrest
    exact ⟨(x, y) :: ps, rfl⟩

theorem map_fst_finitePlaces (ps : List (Finite × Finite)) :
    (ps.map (Prod.map ofFinite ofFinite)).map (·.1) = (ps.map (·.1)).map ofFinite := by
  rw [List.map_map, List.map_map]
  rfl

theorem map_snd_finitePlaces (ps : List (Finite × Finite)) :
    (ps.map (Prod.map ofFinite ofFinite)).map (·.2) = (ps.map (·.2)).map ofFinite := by
  rw [List.map_map, List.map_map]
  rfl

/-- The order of finite places does not matter. -/
theorem exists_detect?_of_perm (h : (places others).Perm (places nodes))
    (hfinite : ∀ p ∈ places nodes, IsFinitePlace p) :
    ∃ direction, detect? nodes = some direction ∧ detect? others = some direction := by
  obtain ⟨ps, hps⟩ := exists_finitePlaces hfinite
  obtain ⟨qs, hqs⟩ := exists_finitePlaces fun p hp => hfinite p (h.mem_iff.mp hp)
  have hperm : ps.Perm qs := by
    rw [hps, hqs] at h
    exact ((List.map_perm_map_iff (ofFinite_injective.prodMap ofFinite_injective)).mp h).symm
  rw [detect?_eq, detect?_eq, hps, hqs, List.length_map, List.length_map, hperm.length_eq]
  split_ifs with hfew
  · exact ⟨.td, rfl, rfl⟩
  · have hne : ps ≠ [] := by
      rintro rfl
      simp [← hperm.length_eq] at hfew
    simp only [map_fst_finitePlaces, map_snd_finitePlaces]
    obtain ⟨width, width', hwidth, hwidth', hx⟩ :=
      exists_spread?_of_perm (hperm.map (·.1)) (by simpa using hne)
    obtain ⟨height, height', hheight, hheight', hy⟩ :=
      exists_spread?_of_perm (hperm.map (·.2)) (by simpa using hne)
    rw [hwidth, hwidth', hheight, hheight']
    simp only [Option.bind_some, Option.map_some, Number.atMost_congr hy hx]
    exact ⟨_, rfl, rfl⟩

end Direction

/-! ## What layout and direction look at -/

def Node.site (node : Node) : String × Option Number × Option Number := (node.id, node.x, node.y)

def Edge.ends (edge : Edge) : String × String := (edge.source, edge.target)

/-- Both coordinates are there. -/
def Node.isPlaced (node : Node) : Bool := node.x.isSome && node.y.isSome

namespace Direction

variable {nodes others : List Node}

/-- The place that a site gives. -/
def placeOfSite? (site : String × Option Number × Option Number) : Option (Number × Number) := do
  return (← site.2.1, ← site.2.2)

theorem places_eq (nodes : List Node) :
    places nodes = (nodes.map Node.site).filterMap placeOfSite? := by
  rw [List.filterMap_map]
  rfl

theorem places_filter_isPlaced (nodes : List Node) :
    places (nodes.filter Node.isPlaced) = places nodes := by
  rw [places, List.filterMap_filter, places]
  refine List.filterMap_congr fun node _ => ?_
  unfold Node.isPlaced
  cases node.x <;> cases node.y <;> rfl

/-- Nodes that lack a coordinate do not count. -/
theorem detect?_eq_of_filter (h : others.filter Node.isPlaced = nodes.filter Node.isPlaced) :
    detect? others = detect? nodes := by
  rw [detect?_eq, detect?_eq, ← places_filter_isPlaced others, h, places_filter_isPlaced]

end Direction

namespace Page

variable {page other : Page} {f : String → String}

/-- The ids that nodes and edges mention. -/
def graphIds (page : Page) : List String :=
  page.nodeIds ++ page.edges.flatMap fun edge => [edge.source, edge.target]

/-- Every coordinate that is there is a finite binary number. -/
def HasFinitePlaces (page : Page) : Prop :=
  ∀ node ∈ page.nodes, ∀ n, node.x = some n ∨ node.y = some n →
    ∃ x : Finite, n = .binary (.finite x)

/-- The other page shows the same graph with ids renamed by `f`. Its lists may have any order, and
nothing is said of labels, shapes and kinds, or of what sections hold. -/
structure SameGraph (f : String → String) (page other : Page) : Prop where
  nodes : (other.nodes.map Node.site).Perm (page.nodes.map fun node => (node.renamed f).site)
  edges : (other.edges.map Edge.ends).Perm (page.edges.map fun edge => (edge.renamed f).ends)
  sections : other.sections.length = page.sections.length

theorem mem_graphIds_of_mem_edges {edge : Edge} (h : edge ∈ page.edges) :
    edge.source ∈ page.graphIds ∧ edge.target ∈ page.graphIds := by
  have hends : ∀ id ∈ [edge.source, edge.target], id ∈ page.graphIds := fun id hid =>
    List.mem_append_right _ (List.mem_flatMap.mpr ⟨edge, h, hid⟩)
  exact ⟨hends _ (by simp), hends _ (by simp)⟩

namespace SameGraph

theorem nodeIds_perm (h : page.SameGraph f other) : other.nodeIds.Perm (page.nodeIds.map f) := by
  have hids := h.nodes.map (·.1)
  rw [List.map_map, List.map_map] at hids
  rw [nodeIds, nodeIds, List.map_map]
  exact hids

theorem sources_perm (h : page.SameGraph f other) : other.sources.Perm (page.sources.map f) := by
  have hsources := h.edges.map (·.1)
  rw [List.map_map, List.map_map] at hsources
  rw [sources, sources, List.map_map]
  exact hsources

section Degrees

variable (h : page.SameGraph f other) (hf : Set.InjOn f {id | id ∈ page.graphIds})
include h hf

/-- As many edges have a renamed node at one of their ends as had the node there. -/
theorem countP_end_eq (select : String × String → String)
    (hselect : ∀ edge : Edge, select (edge.renamed f).ends = f (select edge.ends))
    (hmem : ∀ edge ∈ page.edges, select edge.ends ∈ page.graphIds)
    {id : String} (hid : id ∈ page.graphIds) :
    other.edges.countP (fun edge => select edge.ends == f id) =
      page.edges.countP (fun edge => select edge.ends == id) := by
  calc other.edges.countP (fun edge => select edge.ends == f id)
      = (other.edges.map Edge.ends).countP (select · == f id) := by
        rw [List.countP_map]
        rfl
    _ = (page.edges.map fun edge => (edge.renamed f).ends).countP (select · == f id) :=
        h.edges.countP_eq _
    _ = page.edges.countP (fun edge => select (edge.renamed f).ends == f id) := by
        rw [List.countP_map]
        rfl
    _ = page.edges.countP (fun edge => select edge.ends == id) := by
        refine List.countP_congr fun edge he => ?_
        rw [beq_iff_eq, beq_iff_eq, hselect, hf.eq_iff (hmem edge he) hid]

theorem outDegree_eq {id : String} (hid : id ∈ page.graphIds) :
    other.outDegree (f id) = page.outDegree id :=
  h.countP_end_eq hf Prod.fst (fun _ => rfl) (fun _ he => (mem_graphIds_of_mem_edges he).1) hid

theorem inDegree_eq {id : String} (hid : id ∈ page.graphIds) :
    other.inDegree (f id) = page.inDegree id :=
  h.countP_end_eq hf Prod.snd (fun _ => rfl) (fun _ he => (mem_graphIds_of_mem_edges he).2) hid

theorem maxOutDegree_eq : other.topology.maxOutDegree = page.topology.maxOutDegree := by
  have hsame : (page.sources.map f).map other.outDegree = page.sources.map page.outDegree := by
    rw [List.map_map]
    refine List.map_congr_left fun id hid => ?_
    obtain ⟨edge, he, rfl⟩ := List.mem_map.mp hid
    exact h.outDegree_eq hf (mem_graphIds_of_mem_edges he).1
  have hperm : (other.sources.map other.outDegree).Perm (page.sources.map page.outDegree) :=
    hsame ▸ h.sources_perm.map other.outDegree
  exact hperm.foldl_eq 0

theorem treeShaped_eq : other.topology.treeShaped = page.topology.treeShaped := by
  have hall : ∀ p : Page, p.topology.treeShaped = true ↔ ∀ id ∈ p.nodeIds, p.inDegree id ≤ 1 := by
    intro p
    rw [treeShaped_iff, nodeIds, List.forall_mem_map]
  rw [Bool.eq_iff_iff, hall, hall]
  calc (∀ id ∈ other.nodeIds, other.inDegree id ≤ 1)
      ↔ ∀ id ∈ page.nodeIds.map f, other.inDegree id ≤ 1 := by
        simp only [h.nodeIds_perm.mem_iff]
    _ ↔ ∀ id ∈ page.nodeIds, other.inDegree (f id) ≤ 1 := List.forall_mem_map
    _ ↔ ∀ id ∈ page.nodeIds, page.inDegree id ≤ 1 :=
        forall₂_congr fun id hid => by rw [h.inDegree_eq hf (List.mem_append_left _ hid)]

/-- Everything that the layout rules look at is the same. -/
theorem topology_eq : other.topology = page.topology := by
  have hnodes : other.nodes.length = page.nodes.length := by
    simpa using h.nodes.length_eq
  have hedges : other.edges.length = page.edges.length := by
    simpa using h.edges.length_eq
  have hdegree := h.maxOutDegree_eq hf
  have htree := h.treeShaped_eq hf
  have hsections := h.sections
  unfold topology at *
  simp only [Topology.mk.injEq]
  exact ⟨hnodes, hedges, hdegree, htree, hsections⟩

end Degrees

theorem places_perm (h : page.SameGraph f other) :
    (Direction.places other.nodes).Perm (Direction.places page.nodes) := by
  have hplaces := h.nodes.filterMap Direction.placeOfSite?
  rw [← Direction.places_eq, List.filterMap_map] at hplaces
  exact hplaces

theorem exists_detect? (h : page.SameGraph f other) (hfinite : page.HasFinitePlaces) :
    ∃ direction, Direction.detect? page.nodes = some direction ∧
      Direction.detect? other.nodes = some direction := by
  refine Direction.exists_detect?_of_perm h.places_perm fun p hp => ?_
  obtain ⟨node, hn, hx, hy⟩ := Direction.mem_places hp
  obtain ⟨x, hx⟩ := hfinite node hn p.1 (Or.inl hx)
  obtain ⟨y, hy⟩ := hfinite node hn p.2 (Or.inr hy)
  exact ⟨x, y, Prod.ext hx hy⟩

end SameGraph

/-- Pages that show the same graph have the same topology and the same layout, and with finite
coordinates also the same direction. Nodes that lack a coordinate do not bear on the direction. -/
theorem layout_of_sameGraph (hf : Set.InjOn f {id | id ∈ page.graphIds})
    (h : page.SameGraph f other) :
    other.topology = page.topology ∧
      Layout.detect other = Layout.detect page ∧
      (page.HasFinitePlaces → ∃ direction, Direction.detect? page.nodes = some direction ∧
        Direction.detect? other.nodes = some direction) ∧
      ∀ nodes : List Node, nodes.filter Node.isPlaced = page.nodes.filter Node.isPlaced →
        Direction.detect? nodes = Direction.detect? page.nodes :=
  ⟨h.topology_eq hf, congrArg Layout.choose (h.topology_eq hf), h.exists_detect?,
    fun _ => Direction.detect?_eq_of_filter⟩

/-- A page with a repeated id, an unknown end, both zeros and a node without a place. -/
def survey : Page where
  id := "p"
  name := "First"
  nodes := [⟨"a", "Start", none, some (.binary (.ofRank false 0)),
      some (.binary (.ofRank false 0)), none⟩,
    ⟨"b", "Stop", some "DIAMOND", some (.binary (.ofRank true 0)),
      some (.binary (.ofRank false 7)), some "s"⟩,
    ⟨"a", "Again", none, none, some (.binary (.ofRank false 0)), none⟩]
  edges := [⟨"a", "b", some "yes", "line"⟩, ⟨"gone", "b", none, "arrow"⟩]
  sections := [⟨"s", "One", ["b"]⟩]

/-- The same graph in another order, with the ids of the two nodes exchanged and other words. -/
def otherSurvey : Page where
  id := "q"
  name := "Second"
  nodes := [⟨"a", "End", none, some (.binary (.ofRank true 0)),
      some (.binary (.ofRank false 7)), none⟩,
    ⟨"b", "", some "HEXAGON", none, some (.binary (.ofRank false 0)), none⟩,
    ⟨"b", "Begin", none, some (.binary (.ofRank false 0)),
      some (.binary (.ofRank false 0)), some "t"⟩]
  edges := [⟨"gone", "a", some "no", "arrow"⟩, ⟨"b", "a", none, "bidirectional"⟩]
  sections := [⟨"t", "Two", []⟩]

theorem layout_of_sameGraph_survey :
    Set.InjOn (Equiv.swap "a" "b") {id | id ∈ survey.graphIds} ∧
      survey.SameGraph (Equiv.swap "a" "b") otherSurvey ∧
      survey.HasFinitePlaces ∧
      otherSurvey.topology = survey.topology ∧
      Layout.detect otherSurvey = Layout.detect survey ∧
      (∃ direction, Direction.detect? survey.nodes = some direction ∧
        Direction.detect? otherSurvey.nodes = some direction) ∧
      Direction.detect? (survey.nodes.take 2) = Direction.detect? survey.nodes := by
  have hf : Set.InjOn (Equiv.swap "a" "b") {id | id ∈ survey.graphIds} :=
    (Equiv.swap "a" "b").injective.injOn
  have h : survey.SameGraph (Equiv.swap "a" "b") otherSurvey :=
    ⟨by decide, by decide, by decide⟩
  have hfinite : survey.HasFinitePlaces := by
    intro node hn n hxy
    simp only [survey, List.mem_cons, List.not_mem_nil, or_false] at hn
    rcases hn with rfl | rfl | rfl <;> rcases hxy with hn | hn <;> cases hn <;> exact ⟨_, rfl⟩
  obtain ⟨htopology, hlayout, hdirection, hloose⟩ := layout_of_sameGraph hf h
  exact ⟨hf, h, hfinite, htopology, hlayout, hdirection hfinite, hloose _ (by decide)⟩

end Page

end FlowBoard
