import FlowBoard.Layout
import FlowBoard.Proofs.Graph.Pruning
import Mathlib.Algebra.BigOperators.Group.Finset.Basic
import Mathlib.Algebra.Order.BigOperators.Group.List
import Mathlib.Algebra.Order.Ring.Nat
import Mathlib.Tactic.SplitIfs

/-!
# Layout rules and counts

On a pruned page no id comes twice and the ends of every edge are nodes, so each edge is counted
once among the out-degrees of the nodes and once among their in-degrees. This bounds the number of
edges by the degrees, and shows how the rules for a preset, which are tried in order, bear on each
other: a tree has too few edges for the rules that come before and after its own.
-/

namespace FlowBoard

/-- Every item counts for its own key and for no other. -/
theorem sum_countP_key {ι κ : Type} [DecidableEq κ] {key : ι → κ} {keys : List κ}
    (hkeys : keys.Nodup) {items : List ι} (h : ∀ i ∈ items, key i ∈ keys) :
    (keys.map fun k => items.countP (key · == k)).sum = items.length := by
  have hcount : ∀ k, items.countP (key · == k) = (items.map key).count k := by
    intro k
    rw [List.count_eq_countP, List.countP_map]
    rfl
  have hmem : ∀ k ∈ (items.map key : Multiset κ), k ∈ keys.toFinset := by
    intro k hk
    obtain ⟨i, hi, rfl⟩ := List.mem_map.mp (Multiset.mem_coe.mp hk)
    exact List.mem_toFinset.mpr (h i hi)
  calc (keys.map fun k => items.countP (key · == k)).sum
      = (keys.map fun k => (items.map key).count k).sum := by simp only [hcount]
    _ = ∑ k ∈ keys.toFinset, (items.map key : Multiset κ).count k := by
        simp only [Multiset.coe_count, List.sum_toFinset _ hkeys]
    _ = (items.map key : Multiset κ).card := Multiset.sum_count_eq_card hmem
    _ = items.length := List.length_map key

namespace Page

variable {page : Page}

theorem sum_outDegree (h : page.Canonical) :
    (page.nodeIds.map page.outDegree).sum = page.edges.length :=
  sum_countP_key h.nodup_nodeIds fun edge he => (h.resolved edge he).1

theorem sum_inDegree (h : page.Canonical) :
    (page.nodeIds.map page.inDegree).sum = page.edges.length :=
  sum_countP_key h.nodup_nodeIds fun edge he => (h.resolved edge he).2

theorem outDegree_le_maxOutDegree (page : Page) (id : String) :
    page.outDegree id ≤ page.topology.maxOutDegree := by
  have hmax : page.topology.maxOutDegree = max 0 ((page.sources.map page.outDegree).max?.getD 0) :=
    List.foldl_max
  by_cases hid : id ∈ page.sources
  · have hmem : page.outDegree id ∈ page.sources.map page.outDegree := List.mem_map_of_mem hid
    obtain ⟨greatest, hgreatest⟩ : ∃ d, (page.sources.map page.outDegree).max? = some d :=
      Option.isSome_iff_exists.mp (List.isSome_max?_of_mem hmem)
    rw [hmax, hgreatest, Option.getD_some]
    exact (List.max?_eq_some_iff.mp hgreatest).2 _ hmem |>.trans (le_max_right _ _)
  · have hzero : page.outDegree id = 0 := by
      refine List.countP_eq_zero.mpr fun edge he hsource => hid ?_
      exact List.mem_map.mpr ⟨edge, he, by simpa using hsource⟩
    rw [hzero]
    exact Nat.zero_le _

theorem treeShaped_iff :
    page.topology.treeShaped = true ↔ ∀ node ∈ page.nodes, page.inDegree node.id ≤ 1 := by
  rw [topology, List.all_eq_true]
  simp only [decide_eq_true_eq]

/-- A bound on the degree of each node bounds the sum of the degrees. -/
theorem sum_degree_le {degree : String → Nat} {bound : Nat}
    (h : ∀ node ∈ page.nodes, degree node.id ≤ bound) :
    (page.nodeIds.map degree).sum ≤ page.nodes.length * bound := by
  have hbound : ∀ d ∈ page.nodeIds.map degree, d ≤ bound := by
    intro d hd
    obtain ⟨id, hid, rfl⟩ := List.mem_map.mp hd
    obtain ⟨node, hnode, rfl⟩ := List.mem_map.mp hid
    exact h node hnode
  have hsum := List.sum_le_card_nsmul _ _ hbound
  rwa [Nat.nsmul_eq_mul, List.length_map, nodeIds, List.length_map] at hsum

theorem edges_le_mul_maxOutDegree (h : page.Canonical) :
    page.edges.length ≤ page.nodes.length * page.topology.maxOutDegree := by
  rw [← sum_outDegree h]
  exact sum_degree_le fun node _ => page.outDegree_le_maxOutDegree node.id

theorem edges_le_of_treeShaped (h : page.Canonical) (htree : page.topology.treeShaped = true) :
    page.edges.length ≤ page.nodes.length := by
  rw [← sum_inDegree h, ← Nat.mul_one page.nodes.length]
  exact sum_degree_le (treeShaped_iff.mp htree)

end Page

namespace Layout

variable {t : Topology}

theorem denseBy_iff {n d : Nat} : t.denseBy n d = true ↔ n * max t.nodes 1 ≤ d * t.edges := by
  rw [Topology.denseBy, decide_eq_true_eq]

/-- The rule for the plain preset that comes first. -/
theorem choose_of_sparse (hsmall : t.nodes < 10) (h : 2 * t.edges < 3 * max t.nodes 1) :
    choose t = .plain := by
  have hsparse : t.denseBy 3 2 = false := by
    rw [Bool.eq_false_iff, ne_eq, denseBy_iff]
    omega
  simp [choose, hsmall, hsparse]

/-- The rules from the second on. -/
theorem choose_of_not_sparse (h : 10 ≤ t.nodes ∨ 3 * max t.nodes 1 ≤ 2 * t.edges) :
    choose t = if t.treeShaped then .tree
      else if 2 * max t.nodes 1 ≤ t.edges ∨ 5 ≤ t.maxOutDegree then .organic
      else if 3 ≤ t.sections then .elk
      else if 30 ≤ t.nodes then .compact
      else .plain := by
  have hfirst : ¬(t.nodes < 10 && !t.denseBy 3 2) = true := by
    rw [Bool.and_eq_true, decide_eq_true_eq, Bool.not_eq_true', Bool.eq_false_iff, ne_eq,
      denseBy_iff]
    omega
  rw [choose, if_neg hfirst]
  simp only [Bool.or_eq_true, denseBy_iff, Nat.one_mul, decide_eq_true_eq]

section Rules

variable (htree : t.treeShaped = true → t.edges ≤ t.nodes)
include htree

theorem choose_eq_tree_iff : choose t = .tree ↔ 10 ≤ t.nodes ∧ t.treeShaped = true := by
  by_cases hsparse : t.nodes < 10 ∧ 2 * t.edges < 3 * max t.nodes 1
  · rw [choose_of_sparse hsparse.1 hsparse.2]
    simp [Nat.not_le.mpr hsparse.1]
  · rw [choose_of_not_sparse (by omega)]
    split_ifs with hshape
    · have hcount := htree hshape
      simp only [hshape, and_true, true_iff]
      omega
    all_goals simp [hshape]

theorem choose_eq_organic (hsome : 1 ≤ t.nodes) (hdense : 2 * t.nodes ≤ t.edges) :
    choose t = .organic := by
  have hshape : ¬t.treeShaped = true := fun hshape => by
    have hcount := htree hshape
    omega
  rw [choose_of_not_sparse (by omega), if_neg hshape, if_pos (by omega)]

end Rules

/-- What the rules before those for the presets `compact` and `elk` leave over. -/
theorem of_choose_eq_compact_or_elk (h : choose t = .compact ∨ choose t = .elk) :
    (10 ≤ t.nodes ∨ 3 * max t.nodes 1 ≤ 2 * t.edges) ∧ t.treeShaped = false ∧
      t.edges < 2 * max t.nodes 1 ∧ t.maxOutDegree < 5 := by
  by_cases hsparse : t.nodes < 10 ∧ 2 * t.edges < 3 * max t.nodes 1
  · rw [choose_of_sparse hsparse.1 hsparse.2] at h
    simp at h
  · have hpast : 10 ≤ t.nodes ∨ 3 * max t.nodes 1 ≤ 2 * t.edges := by omega
    rw [choose_of_not_sparse hpast] at h
    split_ifs at h with hshape horganic
    · simp at h
    · simp at h
    all_goals exact ⟨hpast, by simpa using hshape, by omega, by omega⟩

end Layout

namespace Page

/-- What the counts of nodes and edges have to do with the preset that the rules choose. -/
structure LayoutFits (page : Page) : Prop where
  edges_le_mul : page.edges.length ≤ page.nodes.length * page.topology.maxOutDegree
  edges_le : page.topology.treeShaped = true → page.edges.length ≤ page.nodes.length
  tree_iff : Layout.detect page = .tree ↔
    10 ≤ page.nodes.length ∧ ∀ node ∈ page.nodes, page.inDegree node.id ≤ 1
  organic : 1 ≤ page.nodes.length → 2 * page.nodes.length ≤ page.edges.length →
    Layout.detect page = .organic
  compact_or_elk : Layout.detect page = .compact ∨ Layout.detect page = .elk →
    (10 ≤ page.nodes.length ∨ 3 * page.nodes.length ≤ 2 * page.edges.length) ∧
      page.edges.length < 2 * page.nodes.length ∧ page.topology.maxOutDegree < 5 ∧
      ∃ node ∈ page.nodes, 1 < page.inDegree node.id

/-- The rules fit the counts of every pruned page. -/
theorem layoutFits_prune (page : Page) : page.prune.LayoutFits := by
  have hcanonical := page.canonical_prune
  have htree := edges_le_of_treeShaped hcanonical
  refine ⟨edges_le_mul_maxOutDegree hcanonical, htree, ?_, Layout.choose_eq_organic htree, ?_⟩
  · rw [← treeShaped_iff]
    exact Layout.choose_eq_tree_iff htree
  · intro h
    obtain ⟨hpast, hshape, hcount, hdegree⟩ := Layout.of_choose_eq_compact_or_elk h
    have hshared : ∃ node ∈ page.prune.nodes, 1 < page.prune.inDegree node.id := by
      by_contra! hnone
      exact absurd (treeShaped_iff.mpr hnone) (by simp [hshape])
    have hsome : 1 ≤ page.prune.nodes.length := by
      obtain ⟨node, hnode, -⟩ := hshared
      exact List.length_pos_of_mem hnode
    have hcount : page.prune.edges.length < 2 * max page.prune.nodes.length 1 := hcount
    have hpast : 10 ≤ page.prune.nodes.length ∨
      3 * max page.prune.nodes.length 1 ≤ 2 * page.prune.edges.length := hpast
    exact ⟨by omega, by omega, hdegree, hshared⟩

end Page

end FlowBoard
