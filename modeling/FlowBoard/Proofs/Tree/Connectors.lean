import FlowBoard.Proofs.Connector.Stroke
import FlowBoard.Proofs.Graph.Pruning
import FlowBoard.Proofs.Tree.Alike
import Mathlib.Logic.Relation

/-!
# Connectors of a drawing tree, drawn another way

A connector that is redrawn gives the same edge, so the pages of a file stay the same however many
of its connectors are redrawn. When a connector with two arrowheads or none is turned, its edge is
reversed at its place in the page, and the rest of the page and the other pages stay the same.
-/

namespace FlowBoard

namespace Page

def joins (page : Page) (edge : Edge) : Bool :=
  page.hasNode edge.source && page.hasNode edge.target

/-- The edge, if it joins nodes of the page, is reversed at its place; nothing else changes. -/
def TurnsEdge (edge? : Option Edge) (page page' : Page) : Prop :=
  ∃ before after,
    page.edges = before ++ (edge?.filter page.joins).toList ++ after ∧
    page' = { page with
      edges := before ++ ((edge?.filter page.joins).map Edge.reversed).toList ++ after }

end Page

namespace Item

def stroke (item : Item) : Connector.Stroke (Option Endpoint) :=
  ⟨item.start, item.finish, item.startCap, item.finishCap⟩

def withStroke (item : Item) (s : Connector.Stroke (Option Endpoint)) : Item :=
  { item with start := s.first, finish := s.last, startCap := s.firstCap, finishCap := s.lastCap }

end Item

namespace Tree

variable {c tree tree' : Tree} {s : Connector.Stroke (Option Endpoint)} {out out' : Gathered}

/-- The same tree but for the stroke of the item at the top. -/
def restroked (s : Connector.Stroke (Option Endpoint)) : Tree → Tree
  | .node item children => .node (item.withStroke s) children

theorem item_restroked (s : Connector.Stroke (Option Endpoint)) (tree : Tree) :
    (tree.restroked s).item = tree.item.withStroke s := by
  cases tree
  rfl

theorem children_restroked (s : Connector.Stroke (Option Endpoint)) (tree : Tree) :
    (tree.restroked s).children = tree.children := by
  cases tree
  rfl

theorem kind_restroked (s : Connector.Stroke (Option Endpoint)) (tree : Tree) :
    (tree.restroked s).item.kind = tree.item.kind := by
  rw [item_restroked]
  rfl

theorem firstText_restroked (s : Connector.Stroke (Option Endpoint)) (tree : Tree) :
    (tree.restroked s).firstText = tree.firstText := by
  obtain ⟨item, children⟩ := tree
  rw [restroked, firstText_node, firstText_node]
  rfl

/-- At most the stroke at the top differs. -/
def Restrokes (tree tree' : Tree) : Prop := ∃ s, tree' = tree.restroked s

theorem Restrokes.kind_eq (h : Restrokes tree tree') : tree.item.kind = tree'.item.kind := by
  obtain ⟨s, rfl⟩ := h
  exact (kind_restroked s tree).symm

theorem Restrokes.firstText_eq (h : Restrokes tree tree') : tree.firstText = tree'.firstText := by
  obtain ⟨s, rfl⟩ := h
  exact (firstText_restroked s tree).symm

/-! ## The edge of a connector -/

theorem connectorEdge?_eq (tree : Tree) :
    tree.connectorEdge? = (tree.item.stroke.resolve? attached?).map fun (source, target, kind) =>
      { source, target, label := if tree.firstText.isEmpty then none else some tree.firstText
        kind := kind.name } := by
  rw [connectorEdge?, Connector.Stroke.resolve?, Item.stroke]
  cases attached? tree.item.start with
  | none => rfl
  | some first => cases attached? tree.item.finish <;> rfl

theorem connectorEdge?_of_redrawn (h : tree.item.stroke.Redrawn s) :
    (tree.restroked s).connectorEdge? = tree.connectorEdge? := by
  rw [connectorEdge?_eq, connectorEdge?_eq, firstText_restroked, item_restroked]
  exact congrArg _ (Connector.Stroke.resolve?_of_redrawn attached? h)

theorem connectorEdge?_turned (h : ¬tree.item.stroke.OneWay) :
    (tree.restroked tree.item.stroke.turned).connectorEdge? =
      tree.connectorEdge?.map Edge.reversed := by
  rw [connectorEdge?_eq, connectorEdge?_eq, firstText_restroked, item_restroked]
  refine (congrArg _ (Connector.Stroke.resolve?_turned attached? h)).trans ?_
  rw [Option.map_map, Option.map_map]
  rfl

/-- A connector adds its edge. -/
theorem visit_of_connector {v : Visit} (h : v.kind = Item.connectorKind) (out : Gathered) :
    out.visit v = { out with edges := out.edges ++ v.tree.connectorEdge?.toList } := by
  have hsection : v.kind ≠ Item.sectionKind := h ▸ by decide
  have hshape : v.kind ≠ Item.shapeKind := h ▸ by decide
  have hnote : v.note? = none := if_neg (h ▸ by decide)
  have hedge : v.edge? = v.tree.connectorEdge? := if_pos h
  rw [visit_of_other out hsection hshape, hedge, hnote, Option.toList_none, List.append_nil]

/-- After the edge of a connector the walk goes on below it, in the same section. -/
theorem gather_connector (h : tree.item.kind = Item.connectorKind) (sectionId : Option String)
    (out : Gathered) :
    gather sectionId out tree =
      gatherAll sectionId { out with edges := out.edges ++ tree.connectorEdge?.toList }
        tree.children := by
  obtain ⟨item, children⟩ := tree
  have hsection : innerSection sectionId item = sectionId :=
    if_neg (show item.kind ≠ Item.sectionKind from (show item.kind = _ from h) ▸ by decide)
  have hvisit := visit_of_connector (v := ⟨.node item children, sectionId⟩) h out
  rw [gather_node, hsection, hvisit]
  rfl

/-! ## Redrawn connectors -/

/-- The connector at the top is redrawn. -/
inductive Redraws : Tree → Tree → Prop
  | intro {tree : Tree} {s : Connector.Stroke (Option Endpoint)}
      (hkind : tree.item.kind = Item.connectorKind) (h : tree.item.stroke.Redrawn s) :
      Redraws tree (tree.restroked s)

theorem Redraws.restrokes (h : Redraws tree tree') : Restrokes tree tree' := by
  cases h
  exact ⟨_, rfl⟩

theorem Redraws.alike (h : Redraws tree tree') : Alike tree tree' := by
  obtain ⟨hkind, h⟩ := h
  refine ⟨(firstText_restroked _ _).symm, fun sectionId out => ?_⟩
  rw [gather_connector hkind, gather_connector (by rw [kind_restroked, hkind]),
    connectorEdge?_of_redrawn h, children_restroked]

/-! ## A turned connector -/

/-- This connector, at the top, is drawn from its other end. -/
inductive Turns (c : Tree) : Tree → Tree → Prop
  | intro : Turns c c (c.restroked c.item.stroke.turned)

theorem Turns.restrokes (h : Turns c tree tree') : Restrokes tree tree' := by
  cases h
  exact ⟨_, rfl⟩

end Tree

namespace Gathered

variable {out out' : Gathered} {edge? : Option Edge}

/-- What a visit adds does not depend on the edges from before. -/
theorem visit_withEdges (out : Gathered) (edges : List Edge) (v : Visit) :
    visit { out with edges } v = { out.visit v with edges := edges ++ v.edge?.toList } := by
  by_cases hs : v.kind = Item.sectionKind
  · rw [visit_of_section _ hs, visit_of_section _ hs, (Visit.of_section hs).2.2.1]
    simp [openSection]
  · by_cases hk : v.kind = Item.shapeKind
    · rw [visit_of_shape _ hk, visit_of_shape _ hk, (Visit.of_shape hk).2.2.1]
      simp [addShape]
    · rw [visit_of_other _ hs hk, visit_of_other _ hs hk]

theorem edges_visit (out : Gathered) (v : Visit) :
    (out.visit v).edges = out.edges ++ v.edge?.toList :=
  congrArg edges (visit_withEdges out out.edges v)

/-- The edge, if any, is reversed at its place among the edges. -/
def TurnsEdge (edge? : Option Edge) (out out' : Gathered) : Prop :=
  ∃ before after, out.edges = before ++ edge?.toList ++ after ∧
    out' = { out with edges := before ++ (edge?.map Edge.reversed).toList ++ after }

theorem TurnsEdge.visit (h : TurnsEdge edge? out out') (v : Visit) :
    TurnsEdge edge? (out.visit v) (out'.visit v) := by
  obtain ⟨before, after, hedges, rfl⟩ := h
  refine ⟨before, after ++ v.edge?.toList, ?_, ?_⟩
  · rw [edges_visit, hedges, List.append_assoc _ after]
  · rw [visit_withEdges, List.append_assoc _ after]

theorem TurnsEdge.foldl (h : TurnsEdge edge? out out') (vs : List Visit) :
    TurnsEdge edge? (vs.foldl Gathered.visit out) (vs.foldl Gathered.visit out') := by
  induction vs generalizing out out' with
  | nil => exact h
  | cons v vs ih => exact ih (h.visit v)

theorem TurnsEdge.gatherAll (h : TurnsEdge edge? out out') (sectionId : Option String)
    (trees : List Tree) :
    TurnsEdge edge? (Tree.gatherAll sectionId out trees) (Tree.gatherAll sectionId out' trees) := by
  rw [Tree.gatherAll_eq_foldl, Tree.gatherAll_eq_foldl]
  exact h.foldl _

/-- Pruning goes by the nodes, so it drops an edge whichever way it is drawn. -/
theorem TurnsEdge.prune (h : TurnsEdge edge? out out') (id name : String) :
    Page.TurnsEdge edge? (out.page id name).prune (out'.page id name).prune := by
  obtain ⟨before, after, hedges, rfl⟩ := h
  have hjoins : (out.page id name).prune.joins = (out.page id name).joins := by
    funext edge
    rw [Bool.eq_iff_iff, Page.joins, Page.joins, Bool.and_eq_true, Bool.and_eq_true,
      Page.hasNode_iff, Page.hasNode_iff, Page.hasNode_iff, Page.hasNode_iff,
      Page.mem_nodeIds_prune, Page.mem_nodeIds_prune]
  have hreversed : (out.page id name).joins ∘ Edge.reversed = (out.page id name).joins :=
    funext fun edge => Bool.and_comm _ _
  have hkept : ∀ edges, Page.prune { out.page id name with edges } =
      { (out.page id name).prune with edges := edges.filter (out.page id name).joins } :=
    fun _ => rfl
  refine ⟨before.filter (out.page id name).joins, after.filter (out.page id name).joins, ?_, ?_⟩
  · change out.edges.filter (out.page id name).joins = _
    rw [hedges, hjoins, Option.toList_filter, List.filter_append, List.filter_append]
  · refine (hkept _).trans ?_
    rw [hjoins, Option.toList_map, Option.toList_map, Option.toList_filter, List.filter_append,
      List.filter_append, List.filter_map, hreversed]

end Gathered

namespace Tree

variable {c tree tree' : Tree}

theorem Rewrites.firstText_eq {R : Tree → Tree → Prop}
    (hR : ∀ {tree tree'}, R tree tree' → tree.firstText = tree'.firstText)
    (h : Rewrites R tree tree') : tree.firstText = tree'.firstText := by
  induction h with
  | here h => exact hR h
  | inside item before after _ ih =>
    rw [firstText_node, firstText_node, Option.getD_some, Option.getD_some, firstTextOf_append,
      firstTextOf_append, firstTextOf, firstTextOf, ih]

/-- A walk reverses the edge of the connector that is turned. -/
theorem Rewrites.turnsEdge (hkind : c.item.kind = Item.connectorKind) (htwo : ¬c.item.stroke.OneWay)
    (h : Rewrites (Turns c) tree tree') (sectionId : Option String) (out : Gathered) :
    Gathered.TurnsEdge c.connectorEdge? (gather sectionId out tree)
      (gather sectionId out tree') := by
  induction h generalizing sectionId out with
  | here h =>
    obtain ⟨⟩ := h
    rw [gather_connector hkind, gather_connector (by rw [kind_restroked, hkind]),
      children_restroked, connectorEdge?_turned htwo]
    refine Gathered.TurnsEdge.gatherAll ⟨out.edges, [], ?_, ?_⟩ sectionId _
    · rw [List.append_nil]
    · rw [List.append_nil]
  | @inside tree tree' item before after h ih =>
    have htext := (Rewrites.inside item before after h).firstText_eq
      fun h => h.restrokes.firstText_eq
    have hitem : (node item (some (before ++ tree :: after))).item =
        (node item (some (before ++ tree' :: after))).item := rfl
    have hvisit := visit_congr hitem htext (innerSection sectionId item) out
    rw [gather_node, gather_node, hvisit, Option.getD_some, Option.getD_some, gatherAll_append,
      gatherAll_append, gatherAll, gatherAll]
    exact (ih _ _).gatherAll _ after

/-- No title of a page is read from a stroke. -/
theorem Rewrites.title_eq {R : Tree → Tree → Prop}
    (hR : ∀ {tree tree'}, R tree tree' → Restrokes tree tree') (h : Rewrites R tree tree') :
    (tree.item.id, tree.item.cleanName) = (tree'.item.id, tree'.item.cleanName) := by
  refine h.item_eq (f := fun item => (item.id, item.cleanName)) fun {tree tree'} h => ?_
  obtain ⟨s, rfl⟩ := hR h
  rw [item_restroked]
  rfl

theorem Rewrites.numberedPage_redraw (h : Rewrites Redraws tree tree') (n : Nat) :
    tree.numberedPage n = tree'.numberedPage n := by
  obtain ⟨hid, hname⟩ := Prod.mk.inj (h.title_eq Redraws.restrokes)
  rw [numberedPage, numberedPage, hid, hname, (h.alike Redraws.alike).page_eq]

theorem Rewrites.numberedPage_turn (hkind : c.item.kind = Item.connectorKind)
    (htwo : ¬c.item.stroke.OneWay) (h : Rewrites (Turns c) tree tree') (n : Nat) :
    Page.TurnsEdge c.connectorEdge? (tree.numberedPage n) (tree'.numberedPage n) := by
  obtain ⟨hid, hname⟩ := Prod.mk.inj (h.title_eq Turns.restrokes)
  rw [numberedPage, numberedPage, hid, hname]
  exact (h.turnsEdge hkind htwo none {}).prune _ _

end Tree

/-! ## Files -/

namespace TreeFile

variable {root root' : Tree} {R : Tree → Tree → Prop}

/-- Another stroke somewhere is another stroke in one canvas at most. -/
theorem canvases_of_rewrites (hR : ∀ {tree tree'}, R tree tree' → Tree.Restrokes tree tree')
    (h : Tree.Rewrites R root root') (name : Option String) :
    canvases ⟨root', name⟩ = canvases ⟨root, name⟩ ∨
      ∃ before canvas canvas' after, Tree.Rewrites R canvas canvas' ∧
        canvases ⟨root, name⟩ = before ++ canvas :: after ∧
        canvases ⟨root', name⟩ = before ++ canvas' :: after := by
  simp only [canvases]
  cases h with
  | here h =>
    obtain ⟨s, rfl⟩ := hR h
    exact .inl (by rw [Tree.children_restroked])
  | @inside tree tree' item before after h =>
    have hcanvas : tree.isCanvas = tree'.isCanvas :=
      Tree.isCanvas_congr (h.item_eq fun h => (hR h).kind_eq)
    simp only [Tree.children, Option.getD_some, List.filter_append]
    cases htree : tree.isCanvas with
    | true =>
      rw [List.filter_cons_of_pos htree, List.filter_cons_of_pos (hcanvas ▸ htree)]
      exact .inr ⟨_, tree, tree', _, h, rfl, rfl⟩
    | false =>
      have hnone : ¬tree.isCanvas = true := by simp [htree]
      rw [List.filter_cons_of_neg hnone, List.filter_cons_of_neg (hcanvas ▸ hnone)]
      exact .inl rfl

/-- So it is another stroke in one tree at most that a page is drawn of. -/
theorem sheets_of_rewrites (hR : ∀ {tree tree'}, R tree tree' → Tree.Restrokes tree tree')
    (h : Tree.Rewrites R root root') (name : Option String) :
    sheets ⟨root', name⟩ = sheets ⟨root, name⟩ ∨
      ∃ before sheet sheet' after, Tree.Rewrites R sheet sheet' ∧
        sheets ⟨root, name⟩ = before ++ sheet :: after ∧
        sheets ⟨root', name⟩ = before ++ sheet' :: after := by
  rw [sheets, sheets]
  obtain hsame | ⟨before, canvas, canvas', after, hcanvas, heq, heq'⟩ :=
    canvases_of_rewrites hR h name
  · rw [hsame]
    by_cases hnone : (canvases ⟨root, name⟩).isEmpty = true
    · rw [if_pos hnone, if_pos hnone]
      exact .inr ⟨[], root, root', [], h, rfl, rfl⟩
    · rw [if_neg hnone, if_neg hnone]
      exact .inl rfl
  · rw [heq, heq', if_neg (by simp), if_neg (by simp)]
    exact .inr ⟨before, canvas, canvas', after, hcanvas, rfl, rfl⟩

theorem pages_redraw (h : Tree.Rewrites Tree.Redraws root root') (name : Option String) :
    pages ⟨root, name⟩ = pages ⟨root', name⟩ := by
  obtain hsame | ⟨before, sheet, sheet', after, hsheet, heq, heq'⟩ :=
    sheets_of_rewrites Tree.Redraws.restrokes h name
  · rw [pages_eq, pages_eq, hsame]
  · obtain ⟨pages₁, n, pages₂, hpages, hpages'⟩ := exists_pages_of_sheets heq heq'
    rw [hpages, hpages', hsheet.numberedPage_redraw]

/-- Any number of connectors may be redrawn, one after the other. -/
theorem pages_of_redrawn (h : Relation.ReflTransGen (Tree.Rewrites Tree.Redraws) root root')
    (name : Option String) : pages ⟨root', name⟩ = pages ⟨root, name⟩ := by
  induction h with
  | refl => rfl
  | tail _ hlast ih => rw [← pages_redraw hlast, ih]

/-- No page is drawn of a tree with the connector that is turned, or its edge is reversed in one
page. -/
theorem pages_of_turned {c : Tree} (hkind : c.item.kind = Item.connectorKind)
    (htwo : ¬c.item.stroke.OneWay) (h : Tree.Rewrites (Tree.Turns c) root root')
    (name : Option String) :
    sheets ⟨root', name⟩ = sheets ⟨root, name⟩ ∧ pages ⟨root', name⟩ = pages ⟨root, name⟩ ∨
      ∃ pages₁ page page' pages₂, page.TurnsEdge c.connectorEdge? page' ∧
        pages ⟨root, name⟩ = pages₁ ++ page :: pages₂ ∧
        pages ⟨root', name⟩ = pages₁ ++ page' :: pages₂ := by
  obtain hsame | ⟨before, sheet, sheet', after, hsheet, heq, heq'⟩ :=
    sheets_of_rewrites Tree.Turns.restrokes h name
  · exact .inl ⟨hsame, by rw [pages_eq, pages_eq, hsame]⟩
  · obtain ⟨pages₁, n, pages₂, hpages, hpages'⟩ := exists_pages_of_sheets heq heq'
    exact .inr ⟨pages₁, _, _, pages₂, hsheet.numberedPage_turn hkind htwo n, hpages, hpages'⟩

end TreeFile

end FlowBoard
