import FlowBoard.Proofs.Ingestion.Transcoded
import FlowBoard.Proofs.Markup.Connectors
import FlowBoard.Proofs.Tree.Connectors

/-!
# Pages follow the flow, not the drawing

In either form of a drawing, connectors may be redrawn without a change of any page; and when a
connector with two arrowheads or none is turned, its edge is reversed and all else stays.
-/

namespace FlowBoard

namespace Canvas

open Markup

variable {text text' : String} {root root' : Markup}

theorem read_of_readMarkup (h : readMarkup text = .ok root) :
    Canvas.read text =
      if (canvases root).isEmpty then .error .noCanvas else .ok (pageList (canvases root)) := by
  rw [readMarkup] at h
  rw [Canvas.read, h]

theorem isNamed_of_mem_canvases {m : Markup} (h : m ∈ canvases root) :
    m.isNamed "canvas" = true := by
  rw [canvases] at h
  split_ifs at h with hnone
  · split at h
    · exact (List.mem_filter.mp h).2
    · cases h
  · exact (List.mem_filter.mp h).2

theorem isEmpty_eq_of_pageList {ms ms' : List Markup} (h : pageList ms = pageList ms') :
    ms.isEmpty = ms'.isEmpty := by
  have hlength : ms.length = ms'.length := by
    simpa [pageList] using congrArg (fun list => list.pages.length) h
  rw [Bool.eq_iff_iff, List.isEmpty_iff_length_eq_zero, List.isEmpty_iff_length_eq_zero, hlength]

/-- A text whose connectors are redrawn is read as the same page list. -/
theorem read_of_redrawn (h : readMarkup text = .ok root) (h' : readMarkup text' = .ok root')
    (hredrawn : Relation.ReflTransGen (Rewrites Redraws) root root') :
    Canvas.read text' = Canvas.read text := by
  have hlist := pageList_of_redrawn hredrawn
  rw [read_of_readMarkup h, read_of_readMarkup h', hlist, isEmpty_eq_of_pageList hlist]

/-- A text in which a connector of one canvas is turned is read as a page list that differs in one
edge. -/
theorem read_of_turned {edge? : Option Wire.EdgeRecord} {canvas canvas' : Markup}
    {before after : List Markup} (h : readMarkup text = .ok root)
    (h' : readMarkup text' = .ok root') (hcanvases : canvases root = before ++ canvas :: after)
    (hcanvases' : canvases root' = before ++ canvas' :: after)
    (hturned : Turns edge? canvas canvas') :
    ∃ list list', Canvas.read text = .ok list ∧ Canvas.read text' = .ok list' ∧
      list'.fileName = list.fileName ∧
      ∃ pages₁ page page' pages₂, page.TurnsEdge edge? page' ∧
        list.pages = pages₁ ++ page :: pages₂ ∧ list'.pages = pages₁ ++ page' :: pages₂ := by
  have hname : canvas.isNamed "canvas" = true := isNamed_of_mem_canvases (by rw [hcanvases]; simp)
  refine ⟨_, _, ?_, ?_, pageList_of_turned hturned hname before after⟩
  · rw [read_of_readMarkup h, hcanvases, if_neg (by simp)]
  · rw [read_of_readMarkup h', hcanvases', if_neg (by simp)]

end Canvas

/-- Redrawn connectors are not seen in the pages of a tree, nor in the page list of a text in
markup. A turned connector with two arrowheads or none is seen only in its edge, if a page has
it. -/
theorem pages_follow_flow :
    (∀ {root root' : Tree}, Relation.ReflTransGen (Tree.Rewrites Tree.Redraws) root root' →
      ∀ name, TreeFile.pages ⟨root', name⟩ = TreeFile.pages ⟨root, name⟩) ∧
    (∀ {c root root' : Tree}, c.item.kind = Item.connectorKind → ¬c.item.stroke.OneWay →
      Tree.Rewrites (Tree.Turns c) root root' → ∀ name,
      TreeFile.sheets ⟨root', name⟩ = TreeFile.sheets ⟨root, name⟩ ∧
          TreeFile.pages ⟨root', name⟩ = TreeFile.pages ⟨root, name⟩ ∨
        ∃ pages₁ page page' pages₂, page.TurnsEdge c.connectorEdge? page' ∧
          TreeFile.pages ⟨root, name⟩ = pages₁ ++ page :: pages₂ ∧
          TreeFile.pages ⟨root', name⟩ = pages₁ ++ page' :: pages₂) ∧
    (∀ {text text' : String} {root root' : Markup}, Canvas.readMarkup text = .ok root →
      Canvas.readMarkup text' = .ok root' →
      Relation.ReflTransGen (Markup.Rewrites Markup.Redraws) root root' →
      Canvas.read text' = Canvas.read text) ∧
    (∀ {text text' : String} {root root' canvas canvas' : Markup} {before after : List Markup}
      {edge? : Option Wire.EdgeRecord}, Canvas.readMarkup text = .ok root →
      Canvas.readMarkup text' = .ok root' → Canvas.canvases root = before ++ canvas :: after →
      Canvas.canvases root' = before ++ canvas' :: after → Canvas.Turns edge? canvas canvas' →
      ∃ list list', Canvas.read text = .ok list ∧ Canvas.read text' = .ok list' ∧
        list'.fileName = list.fileName ∧
        ∃ pages₁ page page' pages₂, page.TurnsEdge edge? page' ∧
          list.pages = pages₁ ++ page :: pages₂ ∧ list'.pages = pages₁ ++ page' :: pages₂) :=
  ⟨TreeFile.pages_of_redrawn, TreeFile.pages_of_turned, Canvas.read_of_redrawn,
    Canvas.read_of_turned⟩

/-! ## Two shapes and their connectors -/

namespace Drawn

def shape (id : String) : Tree := .node { id, kind := Item.shapeKind } none

def link (first last : String) (startCap finishCap : Option String) : Tree :=
  .node
    { id := "l", kind := Item.connectorKind, start := some ⟨some first⟩, finish := some ⟨some last⟩
      startCap, finishCap } none

def canvas (links : List Tree) : Tree :=
  .node { id := "0:1", kind := Item.canvasKind } (some ([shape "a", shape "b"] ++ links))

def root (links : List Tree) : Tree :=
  .node { id := "0:0", kind := "DOCUMENT" } (some [canvas links])

theorem rewrites_root {R : Tree → Tree → Prop} {c c' : Tree} (before after : List Tree)
    (h : R c c') :
    Tree.Rewrites R (root (before ++ c :: after)) (root (before ++ c' :: after)) := by
  have hplace : ∀ links : List Tree, [shape "a", shape "b"] ++ (before ++ links) =
      ([shape "a", shape "b"] ++ before) ++ links := fun links => (List.append_assoc ..).symm
  rw [root, root, canvas, canvas, hplace, hplace]
  exact .inside _ [] [] (.inside _ _ _ (.here h))

/-- The attributes of a connector between the shapes. -/
def ends (first last : String) : List (Markup.Name × String) :=
  [(.plain "connectorStart", first), (.plain "connectorEnd", last)]

def canvasMarkup (attributes : List (Markup.Name × String)) : Markup :=
  .element (.plain "canvas") [] [.element Markup.connectorName attributes []]

def rootMarkup (attributes : List (Markup.Name × String)) : Markup :=
  .element (.plain Canvas.wrapper) [] [canvasMarkup attributes]

def text (attributes : String) : String :=
  "<canvas><connector " ++ attributes ++ "/></canvas>"

theorem readMarkup_text {written : String} {attributes : List (Markup.Name × String)}
    (h : (Canvas.readMarkup (text written)).toOption = some (rootMarkup attributes)) :
    Canvas.readMarkup (text written) = .ok (rootMarkup attributes) := by
  cases hread : Canvas.readMarkup (text written) with
  | error e =>
    rw [hread] at h
    cases h
  | ok m =>
    rw [hread] at h
    exact congrArg _ (Option.some.inj h)

/-- An arrow is drawn from its other end and a line gets another cap; a line is turned. -/
theorem pages_follow_flow_between_shapes :
    TreeFile.pages ⟨root [link "b" "a" (some "ROUND") (some "TRIANGLE_FILLED"),
        link "a" "b" none (some "SQUARE")], none⟩ =
      TreeFile.pages ⟨root [link "a" "b" (some "ARROW_LINES") none, link "a" "b" none none], none⟩ ∧
    (∃ pages₁ page page' pages₂,
      page.TurnsEdge (link "a" "b" none none).connectorEdge? page' ∧
      TreeFile.pages ⟨root [link "a" "b" none none], none⟩ = pages₁ ++ page :: pages₂ ∧
      TreeFile.pages ⟨root [link "b" "a" none none], none⟩ = pages₁ ++ page' :: pages₂) ∧
    Canvas.read (text "connectorStart='b' connectorEnd='a' connectorStartCap='LINE_ARROW'") =
      Canvas.read (text "connectorStart='a' connectorEnd='b' connectorEndCap='ARROW_LINES'") ∧
    ∃ list list',
      Canvas.read (text "connectorStart='a' connectorEnd='b'") = .ok list ∧
      Canvas.read (text "connectorStart='b' connectorEnd='a'") = .ok list' ∧
      list'.fileName = list.fileName ∧
      ∃ pages₁ page page' pages₂,
        page.TurnsEdge (some { source := "a", target := "b", kind := .line }) page' ∧
        list.pages = pages₁ ++ page :: pages₂ ∧ list'.pages = pages₁ ++ page' :: pages₂ := by
  obtain ⟨hredrawn, hturned, hreread, hreturned⟩ := pages_follow_flow
  refine ⟨?_, ?_, ?_, ?_⟩
  · have harrow : Tree.Redraws (link "a" "b" (some "ARROW_LINES") none)
        (link "b" "a" (some "ROUND") (some "TRIANGLE_FILLED")) :=
      .intro (s := ⟨_, _, _, _⟩) rfl (.turned (by decide) ⟨rfl, rfl, by decide, by decide⟩)
    have hline : Tree.Redraws (link "a" "b" none none) (link "a" "b" none (some "SQUARE")) :=
      .intro (s := ⟨_, _, _, _⟩) rfl (.recapped ⟨rfl, rfl, by decide, by decide⟩)
    exact hredrawn ((Relation.ReflTransGen.single (rewrites_root [] _ harrow)).tail
      (rewrites_root [_] [] hline)) none
  · have hplace : Tree.Rewrites (Tree.Turns (link "a" "b" none none))
        (root [link "a" "b" none none]) (root [link "b" "a" none none]) :=
      rewrites_root [] [] .intro
    obtain ⟨-, hsame⟩ | hpages := hturned rfl (by decide) hplace none
    · exact absurd hsame (by decide)
    · exact hpages
  · have hread : Canvas.readMarkup
        (text "connectorStart='a' connectorEnd='b' connectorEndCap='ARROW_LINES'") =
        .ok (rootMarkup (ends "a" "b" ++ [(.plain "connectorEndCap", "ARROW_LINES")])) :=
      readMarkup_text (by decide +kernel)
    have hread' : Canvas.readMarkup
        (text "connectorStart='b' connectorEnd='a' connectorStartCap='LINE_ARROW'") =
        .ok (rootMarkup (ends "b" "a" ++ [(.plain "connectorStartCap", "LINE_ARROW")])) :=
      readMarkup_text (by decide +kernel)
    refine hreread hread hread' (.single (.inside _ _ [] [] (.inside _ _ [] [] (.here ?_))))
    exact ⟨.intro _ _ _, .turned (by decide) ⟨rfl, rfl, by decide, by decide⟩⟩
  · have hread : Canvas.readMarkup (text "connectorStart='a' connectorEnd='b'") =
        .ok (rootMarkup (ends "a" "b")) := readMarkup_text (by decide +kernel)
    have hread' : Canvas.readMarkup (text "connectorStart='b' connectorEnd='a'") =
        .ok (rootMarkup (ends "b" "a")) := readMarkup_text (by decide +kernel)
    have hcanvases : ∀ attributes, Canvas.canvases (rootMarkup attributes) =
        [] ++ canvasMarkup attributes :: [] := fun _ => rfl
    have hturns : Canvas.Turns (some { source := "a", target := "b", kind := .line })
        (canvasMarkup (ends "a" "b")) (canvasMarkup (ends "b" "a")) :=
      .directly (.plain "canvas") [] [] [] (.intro (ends "a" "b") (ends "b" "a") [])
        (by decide) rfl
    exact hreturned hread hread' (hcanvases _) (hcanvases _) hturns

end Drawn

end FlowBoard
