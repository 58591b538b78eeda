import FlowBoard.Ingested
import FlowBoard.Proofs.Wire.RoundTrip

/-!
# Boards in both wire forms

A board is what both forms can say: shapes, alone or in sections, and connectors and sticky notes
anywhere between them or in them. `Board.treeFile` puts it on the one canvas of a drawing, with the
texts in items of their own and the positions in bounding boxes; `Board.pageList` lists its records.
The text of a shape is the first that is met in it, so `Board.TextsFirst` asks that nothing with a
text stands in a shape before the shape's own.
-/

namespace FlowBoard

/-- A text in which cleaning has nothing left to do. -/
abbrev CleanText := { s : String // Text.clean s = s ∧ s ≠ "" }

abbrev Key := { s : String // s ≠ "" }

namespace Board

inductive Mark
  | connector (id : String) (start finish : Key) (startCap finishCap : Option String)
      (label : Option CleanText)
  | note (id : String) (text : CleanText)

/-- The text that stands in a mark. -/
def Mark.text? : Mark → Option CleanText
  | .connector _ _ _ _ _ label => label
  | .note _ text => some text

/-- A shape with the marks that stand in it, before its text and after. -/
structure Shape where
  id : String
  label : CleanText
  kind : Option String := none
  box : Option Box := none
  front : List Mark := []
  back : List Mark := []

inductive Part
  | shape (shape : Shape)
  | mark (mark : Mark)

structure Group where
  id : Key
  name : CleanText
  parts : List Part

inductive Entry
  | part (part : Part)
  | group (group : Group)

namespace Part

def shape? : Part → Option Shape
  | .shape s => some s
  | .mark _ => none

def marks : Part → List Mark
  | .shape s => s.front ++ s.back
  | .mark m => [m]

/-- No mark with a text stands in a shape before the shape's own text. -/
def TextFirst : Part → Prop
  | .shape s => ∀ mark ∈ s.front, mark.text? = none
  | .mark _ => True

instance : (part : Part) → Decidable part.TextFirst
  | .shape s => inferInstanceAs (Decidable (∀ mark ∈ s.front, mark.text? = none))
  | .mark _ => .isTrue trivial

end Part

def Group.shapes (group : Group) : List Shape := group.parts.filterMap Part.shape?

namespace Entry

/-- The parts of an entry, each with the id of the section around it. -/
def parts : Entry → List (Option String × Part)
  | .part p => [(none, p)]
  | .group g => g.parts.map (some g.id.val, ·)

def group? : Entry → Option Group
  | .part _ => none
  | .group g => some g

end Entry

/-! ## Records -/

open Wire

def Shape.record (sectionId : Option String) (shape : Shape) : NodeRecord where
  id := shape.id
  label := shape.label
  shape := shape.kind
  x := shape.box.map Box.x
  y := shape.box.map Box.y
  sectionId

namespace Mark

def edge? : Mark → Option EdgeRecord
  | .connector _ start finish startCap finishCap label =>
    let (source, target, kind) := Connector.resolve start finish startCap finishCap
    some { source, target, label := label.map Subtype.val, kind }
  | .note .. => none

def note? : Mark → Option StickyNote
  | .connector .. => none
  | .note id text => some ⟨id, text⟩

end Mark

def Group.record (group : Group) : Section where
  id := group.id
  label := group.name
  members := group.shapes.map Shape.id

def nodeRecords (entries : List Entry) : List NodeRecord :=
  (entries.flatMap Entry.parts).filterMap fun (sectionId, part) =>
    part.shape?.map (·.record sectionId)

def marks (entries : List Entry) : List Mark :=
  (entries.flatMap Entry.parts).flatMap fun (_, part) => part.marks

def groups (entries : List Entry) : List Group := entries.filterMap Entry.group?

end Board

/-- What is on a board; no two shapes and no two sections share an id. -/
structure Board where
  pageId : String
  pageName : CleanText
  fileName : Option String := none
  entries : List Board.Entry
  nodup_shapes : ((Board.nodeRecords entries).map Wire.NodeRecord.id).Nodup
  nodup_groups : ((Board.groups entries).map (·.id.val)).Nodup

namespace Board

open Wire

def record (board : Board) : PageRecord where
  id := board.pageId
  name := board.pageName
  nodes := nodeRecords board.entries
  edges := (marks board.entries).filterMap Mark.edge?
  sections := (groups board.entries).map Group.record
  stickies := (marks board.entries).filterMap Mark.note?

def pageList (board : Board) : PageList where
  pages := [board.record]
  fileName := board.fileName

/-- The text of every shape stands before all other texts in it. -/
def TextsFirst (board : Board) : Prop :=
  ∀ entry ∈ board.entries, ∀ p ∈ entry.parts, p.2.TextFirst

instance (board : Board) : Decidable board.TextsFirst :=
  inferInstanceAs (Decidable (∀ entry ∈ board.entries, ∀ p ∈ entry.parts, p.2.TextFirst))

/-! ## Trees -/

/-- The text of an item stands in an item of its own. -/
def textTree (owner : String) (text : CleanText) : Tree :=
  .node { id := owner ++ ":text", kind := "TEXT", characters := some text.val } none

def Mark.tree : Mark → Tree
  | .connector id start finish startCap finishCap label =>
    .node {
      id
      kind := Item.connectorKind
      start := some ⟨some start.val⟩
      finish := some ⟨some finish.val⟩
      startCap
      finishCap } (some (label.toList.map (textTree id)))
  | .note id text => .node { id, kind := Item.stickyKind } (some [textTree id text])

def Shape.tree (shape : Shape) : Tree :=
  .node { id := shape.id, kind := Item.shapeKind, shape := shape.kind, box := shape.box }
    (some (shape.front.map Mark.tree ++ textTree shape.id shape.label :: shape.back.map Mark.tree))

def Part.tree : Part → Tree
  | .shape s => s.tree
  | .mark m => m.tree

def Group.item (group : Group) : Item where
  id := group.id
  kind := Item.sectionKind
  name := some group.name.val

def Group.tree (group : Group) : Tree := .node group.item (some (group.parts.map Part.tree))

def Entry.tree : Entry → Tree
  | .part p => p.tree
  | .group g => g.tree

def canvas (board : Board) : Tree :=
  .node { id := board.pageId, kind := Item.canvasKind, name := some board.pageName.val }
    (some (board.entries.map Entry.tree))

def treeFile (board : Board) : TreeFile where
  root := .node { id := "0:0", kind := "DOCUMENT" } (some [board.canvas])
  name := board.fileName

/-! ## Depth -/

theorem depth_mark (mark : Mark) : mark.tree.depth ≤ 2 := by
  cases mark with
  | connector id start finish startCap finishCap label =>
    refine Nat.succ_le_succ (Tree.depthOf_le fun tree ht => ?_)
    obtain ⟨text, _, rfl⟩ := List.mem_map.mp ht
    exact Nat.le_refl 1
  | note id text => exact Nat.le_refl 2

theorem depth_shape (shape : Shape) : shape.tree.depth ≤ 3 := by
  refine Nat.succ_le_succ (Tree.depthOf_le fun tree ht => ?_)
  have hmark : ∀ marks : List Mark, tree ∈ marks.map Mark.tree → tree.depth ≤ 2 := by
    intro marks hm
    obtain ⟨mark, _, rfl⟩ := List.mem_map.mp hm
    exact depth_mark mark
  rcases List.mem_append.mp ht with hfront | ht
  · exact hmark _ hfront
  · rcases List.mem_cons.mp ht with rfl | hback
    · exact Nat.le_succ 1
    · exact hmark _ hback

theorem depth_part (part : Part) : part.tree.depth ≤ 3 := by
  cases part with
  | shape shape => exact depth_shape shape
  | mark mark => exact Nat.le_succ_of_le (depth_mark mark)

theorem depth_entry (entry : Entry) : entry.tree.depth ≤ 4 := by
  cases entry with
  | part part => exact Nat.le_succ_of_le (depth_part part)
  | group group =>
    refine Nat.succ_le_succ (Tree.depthOf_le fun tree ht => ?_)
    obtain ⟨part, _, rfl⟩ := List.mem_map.mp ht
    exact depth_part part

theorem depth_root_treeFile (board : Board) : board.treeFile.root.depth ≤ 6 := by
  have hcanvas : board.canvas.depth ≤ 5 := by
    refine Nat.succ_le_succ (Tree.depthOf_le fun tree ht => ?_)
    obtain ⟨entry, _, rfl⟩ := List.mem_map.mp ht
    exact depth_entry entry
  refine Nat.succ_le_succ (Tree.depthOf_le fun tree ht => ?_)
  obtain rfl := List.mem_singleton.mp ht
  exact hcanvas

end Board

end FlowBoard
