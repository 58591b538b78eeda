import FlowBoard.Proofs.Tree.Walk
import Mathlib.Data.List.Forall2

/-!
# Trees that are drawn alike

Two trees are drawn alike when the same text is found in both and a walk of either adds the same to
whatever was gathered before. Trees that have such trees in the same places are drawn alike too, so
the pages of a file do not change when a tree somewhere in it is replaced by one that is drawn
alike.
-/

namespace FlowBoard

namespace Tree

variable {item : Item} {tree tree' : Tree} {trees trees' rest rest' : List Tree}

/-! ## Walks of trees and lists -/

theorem firstText_node (item : Item) (children : Option (List Tree)) :
    firstText (.node item children) =
      if item.ownText.isEmpty then firstTextOf (children.getD []) else item.ownText := by
  cases children with
  | some trees => rfl
  | none =>
    rw [firstText, Option.getD_none, firstTextOf]
    split_ifs with h
    · exact String.isEmpty_iff.mp h
    · rfl

theorem firstTextOf_append (trees rest : List Tree) :
    firstTextOf (trees ++ rest) =
      if (firstTextOf trees).isEmpty then firstTextOf rest else firstTextOf trees := by
  induction trees with
  | nil => rfl
  | cons tree trees ih =>
    rw [List.cons_append, firstTextOf, firstTextOf, ih]
    by_cases h : tree.firstText.isEmpty = true
    · rw [if_pos h, if_pos h]
    · rw [if_neg h, if_neg h, if_neg h]

/-- The section around the trees below an item. -/
def innerSection (sectionId : Option String) (item : Item) : Option String :=
  if item.kind = Item.sectionKind then some item.id else sectionId

theorem gather_node (sectionId : Option String) (out : Gathered) (item : Item)
    (children : Option (List Tree)) :
    gather sectionId out (.node item children) =
      gatherAll (innerSection sectionId item)
        (out.visit ⟨.node item children, innerSection sectionId item⟩) (children.getD []) := by
  cases children <;> rfl

theorem gatherAll_append (sectionId : Option String) (out : Gathered) (trees rest : List Tree) :
    gatherAll sectionId out (trees ++ rest) =
      gatherAll sectionId (gatherAll sectionId out trees) rest := by
  induction trees generalizing out with
  | nil => rfl
  | cons tree trees ih => exact ih (gather sectionId out tree)

theorem shapeNode_congr (hitem : tree.item = tree'.item) (htext : tree.firstText = tree'.firstText)
    (sectionId : Option String) : tree.shapeNode sectionId = tree'.shapeNode sectionId := by
  rw [shapeNode, shapeNode, shapeLabel, shapeLabel, hitem, htext]

theorem connectorEdge?_congr (hitem : tree.item = tree'.item)
    (htext : tree.firstText = tree'.firstText) : tree.connectorEdge? = tree'.connectorEdge? := by
  rw [connectorEdge?, connectorEdge?, hitem, htext]

theorem stickyNote?_congr (hitem : tree.item = tree'.item)
    (htext : tree.firstText = tree'.firstText) : tree.stickyNote? = tree'.stickyNote? := by
  rw [stickyNote?, stickyNote?, hitem, htext]

/-- What a visit adds follows from the item and the text that is found. -/
theorem visit_congr (hitem : tree.item = tree'.item) (htext : tree.firstText = tree'.firstText)
    (sectionId : Option String) (out : Gathered) :
    out.visit ⟨tree, sectionId⟩ = out.visit ⟨tree', sectionId⟩ := by
  unfold Gathered.visit Gathered.addItem Visit.kind
  dsimp only
  rw [hitem, shapeNode_congr hitem htext, connectorEdge?_congr hitem htext,
    stickyNote?_congr hitem htext]

/-! ## Alike -/

structure Alike (tree tree' : Tree) : Prop where
  firstText : tree.firstText = tree'.firstText
  gather : ∀ sectionId out, gather sectionId out tree = gather sectionId out tree'

/-- Two lists of trees as which the same is drawn. -/
structure AllAlike (trees trees' : List Tree) : Prop where
  firstText : firstTextOf trees = firstTextOf trees'
  gather : ∀ sectionId out, gatherAll sectionId out trees = gatherAll sectionId out trees'

namespace AllAlike

theorem refl (trees : List Tree) : AllAlike trees trees := ⟨rfl, fun _ _ => rfl⟩

theorem cons (h : Alike tree tree') (hrest : AllAlike rest rest') :
    AllAlike (tree :: rest) (tree' :: rest') where
  firstText := by rw [firstTextOf, firstTextOf, h.firstText, hrest.firstText]
  gather sectionId out := by rw [gatherAll, gatherAll, h.gather, hrest.gather]

theorem append (h : AllAlike trees trees') (hrest : AllAlike rest rest') :
    AllAlike (trees ++ rest) (trees' ++ rest') where
  firstText := by rw [firstTextOf_append, firstTextOf_append, h.firstText, hrest.firstText]
  gather sectionId out := by rw [gatherAll_append, gatherAll_append, h.gather, hrest.gather]

/-- An item with either list below it is drawn alike. -/
theorem node (item : Item) (children children' : Option (List Tree))
    (h : AllAlike (children.getD []) (children'.getD [])) :
    Alike (.node item children) (.node item children') := by
  have hitem : (Tree.node item children).item = (Tree.node item children').item := rfl
  have htext : Tree.firstText (.node item children) = Tree.firstText (.node item children') := by
    rw [firstText_node, firstText_node, h.firstText]
  refine ⟨htext, fun sectionId out => ?_⟩
  have hvisit := visit_congr hitem htext (innerSection sectionId item) out
  rw [gather_node, gather_node, hvisit, h.gather]

theorem branch (h : AllAlike trees trees') (item : Item) :
    Alike (.node item (some trees)) (.node item (some trees')) :=
  node item (some trees) (some trees') h

end AllAlike

theorem Alike.page_eq (h : Alike tree tree') (id name : String) :
    tree.page id name = tree'.page id name := by
  rw [page, page, h.gather]

/-! ## One place in a tree -/

/-- The tree at one place is replaced by another, to which `R` relates it. -/
inductive Rewrites (R : Tree → Tree → Prop) : Tree → Tree → Prop
  | here {tree tree' : Tree} (h : R tree tree') : Rewrites R tree tree'
  | inside {tree tree' : Tree} (item : Item) (before after : List Tree)
      (h : Rewrites R tree tree') :
      Rewrites R (.node item (some (before ++ tree :: after)))
        (.node item (some (before ++ tree' :: after)))

variable {R : Tree → Tree → Prop}

theorem Rewrites.alike (hR : ∀ {tree tree'}, R tree tree' → Alike tree tree')
    (h : Rewrites R tree tree') : Alike tree tree' := by
  induction h with
  | here h => exact hR h
  | inside item before after _ ih =>
    exact ((AllAlike.refl before).append (.cons ih (.refl after))).branch item

/-- What does not change in the item at the place does not change in the item at the top. -/
theorem Rewrites.item_eq {α : Type} {f : Item → α}
    (hR : ∀ {tree tree'}, R tree tree' → f tree.item = f tree'.item)
    (h : Rewrites R tree tree') : f tree.item = f tree'.item := by
  cases h with
  | here h => exact hR h
  | inside => rfl

/-! ## Files -/

theorem isCanvas_congr (h : tree.item.kind = tree'.item.kind) : tree.isCanvas = tree'.isCanvas := by
  rw [isCanvas, isCanvas, h]

/-- No canvas is at the top of a list of trees. -/
def NoCanvas (trees : List Tree) : Prop := ∀ tree ∈ trees, tree.isCanvas = false

/-- A rewriting neither makes a canvas of another item nor brings one to the top of the trees below
the place. -/
structure KeepsCanvases (R : Tree → Tree → Prop) : Prop where
  kind : ∀ {tree tree'}, R tree tree' → tree.item.kind = tree'.item.kind
  below : ∀ {tree tree'}, R tree tree' → NoCanvas tree.children → NoCanvas tree'.children

theorem Rewrites.noCanvas (hR : KeepsCanvases R) (h : Rewrites R tree tree')
    (hnone : NoCanvas tree.children) : NoCanvas tree'.children := by
  cases h with
  | here h => exact hR.below h hnone
  | inside item before after h =>
    simp only [NoCanvas, children, Option.getD_some, List.forall_mem_append,
      List.forall_mem_cons] at hnone ⊢
    rw [← isCanvas_congr (h.item_eq hR.kind)]
    exact hnone

end Tree

namespace TreeFile

variable {file file' : TreeFile} {R : Tree → Tree → Prop}

/-- The trees that pages are drawn of: the canvases, or else the root. -/
def sheets (file : TreeFile) : List Tree :=
  if file.canvases.isEmpty then [file.root] else file.canvases

theorem pages_eq (file : TreeFile) :
    file.pages = file.sheets.zipIdx.map fun (tree, i) => tree.numberedPage (i + 1) := by
  rw [pages, sheets]
  split_ifs <;> rfl

theorem sheets_of_noCanvas (h : Tree.NoCanvas file.root.children) : file.sheets = [file.root] := by
  have hnone : file.canvases = [] := List.filter_eq_nil_iff.mpr fun tree ht => by simp [h tree ht]
  rw [sheets, hnone, if_pos List.isEmpty_nil]

theorem sheets_of_canvas {item : Item} {before after : List Tree} {canvas : Tree}
    (h : canvas.isCanvas = true) (name : Option String) :
    sheets ⟨.node item (some (before ++ canvas :: after)), name⟩ =
      before.filter Tree.isCanvas ++ canvas :: after.filter Tree.isCanvas := by
  have hcanvases : canvases ⟨.node item (some (before ++ canvas :: after)), name⟩ =
      before.filter Tree.isCanvas ++ canvas :: after.filter Tree.isCanvas := by
    rw [canvases, Tree.children, Option.getD_some, List.filter_append, List.filter_cons_of_pos h]
  rw [sheets, hcanvases, if_neg (by simp)]

/-- The tree at one place in a sheet is replaced by another, to which `R` relates it. -/
inductive Rewrites (R : Tree → Tree → Prop) : TreeFile → TreeFile → Prop
  | canvas {canvas canvas' : Tree} (item : Item) (before after : List Tree) (name : Option String)
      (hcanvas : canvas.isCanvas = true) (h : Tree.Rewrites R canvas canvas') :
      Rewrites R ⟨.node item (some (before ++ canvas :: after)), name⟩
        ⟨.node item (some (before ++ canvas' :: after)), name⟩
  | root {root root' : Tree} (name : Option String) (hnone : Tree.NoCanvas root.children)
      (h : Tree.Rewrites R root root') : Rewrites R ⟨root, name⟩ ⟨root', name⟩

theorem Rewrites.exists_sheets (hR : Tree.KeepsCanvases R) (h : Rewrites R file file') :
    ∃ before sheet sheet' after, Tree.Rewrites R sheet sheet' ∧
      file.sheets = before ++ sheet :: after ∧ file'.sheets = before ++ sheet' :: after := by
  cases h with
  | @canvas canvas canvas' item before after name hcanvas h =>
    have hcanvas' : canvas'.isCanvas = true := by
      rw [← Tree.isCanvas_congr (h.item_eq hR.kind), hcanvas]
    exact ⟨_, canvas, canvas', _, h, sheets_of_canvas hcanvas name, sheets_of_canvas hcanvas' name⟩
  | @root root root' name hnone h =>
    exact ⟨[], root, root', [], h, sheets_of_noCanvas hnone,
      sheets_of_noCanvas (h.noCanvas hR hnone)⟩

/-- Of the pages at most the one with the place in it changes. -/
theorem exists_pages_of_sheets {before after : List Tree} {sheet sheet' : Tree}
    (h : file.sheets = before ++ sheet :: after) (h' : file'.sheets = before ++ sheet' :: after) :
    ∃ pages₁ n pages₂, file.pages = pages₁ ++ sheet.numberedPage n :: pages₂ ∧
      file'.pages = pages₁ ++ sheet'.numberedPage n :: pages₂ := by
  rw [pages_eq, pages_eq, h, h']
  simp only [List.zipIdx_append, List.zipIdx_cons, List.map_append, List.map_cons]
  exact ⟨_, _, _, rfl, rfl⟩

end TreeFile

end FlowBoard
