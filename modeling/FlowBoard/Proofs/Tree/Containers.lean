import FlowBoard.Proofs.Text.Blank
import FlowBoard.Proofs.Tree.Alike
import Mathlib.Logic.Relation

/-!
# Containers that are not drawn

An item that is of no kind that is drawn and has no text of its own is inert: a walk adds nothing
for it and goes on to the trees below, in the same section, and the text that is found does not
change either. So it does not matter to a page how trees are grouped by such items.
-/

namespace FlowBoard

/-- Kinds that are drawn, or make pages. -/
def Item.drawnKinds : List String :=
  [sectionKind, shapeKind, connectorKind, stickyKind, canvasKind]

/-- An item of no such kind and without text; its id, its name and the rest may be anything. -/
structure Item.IsInert (item : Item) : Prop where
  kind : item.kind ∉ Item.drawnKinds
  blank : ∀ text ∈ item.characters, Text.isBlankText text = true

namespace Item

variable {item : Item}

theorem IsInert.ownText_eq (h : item.IsInert) : item.ownText = "" := by
  rw [ownText]
  cases htext : item.characters with
  | none => exact Text.clean_of_isBlankText rfl
  | some text => exact Text.clean_of_isBlankText (h.blank text htext)

theorem IsInert.kind_ne (h : item.IsInert) {kind : String} (hk : kind ∈ drawnKinds) :
    item.kind ≠ kind := fun he => h.kind (he ▸ hk)

end Item

namespace Tree

theorem visit_inert {item : Item} (h : item.IsInert) (children : Option (List Tree))
    (sectionId : Option String) (out : Gathered) :
    out.visit ⟨.node item children, sectionId⟩ = out := by
  have hkind : Visit.kind ⟨.node item children, sectionId⟩ = item.kind := rfl
  have hedge : Visit.edge? ⟨.node item children, sectionId⟩ = none :=
    if_neg (h.kind_ne (by decide))
  have hnote : Visit.note? ⟨.node item children, sectionId⟩ = none :=
    if_neg (h.kind_ne (by decide))
  rw [visit_of_other out (hkind ▸ h.kind_ne (by decide)) (hkind ▸ h.kind_ne (by decide)), hedge,
    hnote, Option.toList_none, List.append_nil, Option.toList_none, List.append_nil]

/-- An inert item is drawn like the trees below it. -/
theorem allAlike_inert {item : Item} (h : item.IsInert) (children : Option (List Tree)) :
    AllAlike [.node item children] (children.getD []) where
  firstText := by
    have hown : item.ownText.isEmpty = true := String.isEmpty_iff.mpr h.ownText_eq
    rw [firstTextOf, firstTextOf, firstText_node, if_pos hown]
    split_ifs with hempty
    · exact (String.isEmpty_iff.mp hempty).symm
    · rfl
  gather sectionId out := by
    rw [gatherAll, gatherAll, gather_node, visit_inert h, innerSection,
      if_neg (h.kind_ne (by decide))]

/-- A run of the trees below an item is put below an inert item, which takes its place. -/
inductive Wraps : Tree → Tree → Prop
  | intro (item container : Item) (children inside : Option (List Tree))
      (before run after : List Tree) (hinert : container.IsInert)
      (hchildren : children.getD [] = before ++ run ++ after) (hinside : inside.getD [] = run) :
      Wraps (.node item children)
        (.node item (some (before ++ .node container inside :: after)))

variable {tree tree' : Tree}

theorem Wraps.alike (h : Wraps tree tree') : Alike tree tree' := by
  obtain ⟨item, container, children, inside, before, run, after, hinert, hchildren, rfl⟩ := h
  have hwrapped : AllAlike (before ++ [.node container inside] ++ after)
      (before ++ inside.getD [] ++ after) :=
    ((AllAlike.refl before).append (allAlike_inert hinert inside)).append (.refl after)
  rw [List.append_assoc, List.singleton_append, ← hchildren] at hwrapped
  exact AllAlike.node item children (some _) ⟨hwrapped.firstText.symm, fun sectionId out =>
    (hwrapped.gather sectionId out).symm⟩

theorem Wraps.item_eq (h : Wraps tree tree') : tree.item = tree'.item := by
  cases h
  rfl

/-- A container is no canvas, so wrapping brings none to the top. -/
theorem keepsCanvases_wraps : KeepsCanvases Wraps where
  kind h := congrArg Item.kind h.item_eq
  below := by
    rintro _ _ ⟨item, container, children, inside, before, run, after, hinert, hchildren, hinside⟩
      hnone
    have hcontainer : (node container inside).isCanvas = false := by
      simpa [isCanvas, Tree.item] using hinert.kind_ne (by decide : Item.canvasKind ∈ _)
    have hnone : NoCanvas (before ++ run ++ after) := hchildren ▸ hnone
    simp only [NoCanvas, List.forall_mem_append] at hnone
    exact List.forall_mem_append.mpr
      ⟨hnone.1.1, List.forall_mem_cons.mpr ⟨hcontainer, hnone.2⟩⟩

theorem Rewrites.numberedPage_eq (h : Rewrites Wraps tree tree') (n : Nat) :
    tree.numberedPage n = tree'.numberedPage n := by
  have hitem : tree.item = tree'.item := h.item_eq (f := id) Wraps.item_eq
  rw [numberedPage, numberedPage, hitem, (h.alike Wraps.alike).page_eq]

end Tree

namespace TreeFile

variable {file file' : TreeFile}

/-- One container more in a sheet. -/
theorem pages_wrap (h : Rewrites Tree.Wraps file file') : file.pages = file'.pages := by
  obtain ⟨before, sheet, sheet', after, hsheet, hbefore, hafter⟩ :=
    h.exists_sheets Tree.keepsCanvases_wraps
  obtain ⟨pages₁, n, pages₂, hpages, hpages'⟩ := exists_pages_of_sheets hbefore hafter
  rw [hpages, hpages', hsheet.numberedPage_eq]

/-- However many containers are put into the sheets of a file, one after the other and in each
other, its pages stay the same. -/
theorem pages_eq_of_wrapped (h : Relation.ReflTransGen (Rewrites Tree.Wraps) file file') :
    file'.pages = file.pages := by
  induction h with
  | refl => rfl
  | tail _ hlast ih => rw [← pages_wrap hlast, ih]

/-! ## A shape in two containers -/

def labelledShape : Tree :=
  .node { id := "a", kind := Item.shapeKind } (some
    [.node { id := "t", kind := "TEXT", characters := some "A" } none])

/-- Between the shape and its text. -/
def regroupedShape : Tree :=
  .node { id := "a", kind := Item.shapeKind } (some
    [.node { id := "u", kind := "GROUP", name := some "Not a label" } (some
      [.node { id := "t", kind := "TEXT", characters := some "A" } none])])

def framed (trees : List Tree) : Tree :=
  .node { id := "f", kind := "FRAME", characters := some " \u00A0" } (some trees)

def sectionFile (trees : List Tree) : TreeFile where
  root := .node { id := "0:0", kind := "DOCUMENT" } (some
    [.node { id := "0:1", kind := Item.canvasKind } (some
      [.node { id := "s", kind := Item.sectionKind, name := some "S" } (some trees)])])

/-- The canvas below the document and the section in it are around the place. -/
theorem rewrites_sectionFile {trees trees' : List Tree}
    (h : Tree.Rewrites Tree.Wraps
      (.node { id := "s", kind := Item.sectionKind, name := some "S" } (some trees))
      (.node { id := "s", kind := Item.sectionKind, name := some "S" } (some trees'))) :
    Rewrites Tree.Wraps (sectionFile trees) (sectionFile trees') :=
  .canvas _ [] [] none rfl (.inside _ [] [] h)

theorem pages_eq_of_wrapped_shape :
    Relation.ReflTransGen (Rewrites Tree.Wraps) (sectionFile [labelledShape])
      (sectionFile [framed [regroupedShape]]) ∧
    (sectionFile [framed [regroupedShape]]).pages = (sectionFile [labelledShape]).pages ∧
    (sectionFile [labelledShape]).pages =
      [{ id := "0:1", name := "Page 1"
         nodes := [{ id := "a", label := "A", sectionId := some "s" }]
         sections := [{ id := "s", label := "S", members := ["a"] }] }] := by
  have hframe : Rewrites Tree.Wraps (sectionFile [labelledShape])
      (sectionFile [framed [labelledShape]]) :=
    rewrites_sectionFile (.here (.intro _ _ (some [labelledShape]) _ [] [labelledShape] []
      ⟨by decide, by decide⟩ rfl rfl))
  have hgroup : Rewrites Tree.Wraps (sectionFile [framed [labelledShape]])
      (sectionFile [framed [regroupedShape]]) :=
    rewrites_sectionFile (.inside _ [] [] (.inside _ [] [] (.here
      (.intro _ _ (some _) (some _) [] _ [] ⟨by decide, by decide⟩ rfl rfl))))
  have hwrapped := (Relation.ReflTransGen.single hframe).tail hgroup
  exact ⟨hwrapped, pages_eq_of_wrapped hwrapped, by decide⟩

end TreeFile

end FlowBoard
