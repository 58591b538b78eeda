import FlowBoard.Proofs.Mermaid.Direction
import FlowBoard.Proofs.Mermaid.Lines

/-!
# Flowcharts lose and repeat nothing

`Page.Draws` says what the lines of a page's flowchart are: their order, how each is written, where
the line of each node id stands, and that blocks are closed before the next one opens.
-/

namespace FlowBoard

open Mermaid

/-- How the lines of a flowchart are written. Blocks and what stands outside them are indented by
two blanks, nodes inside a block by four. -/
inductive Mermaid.Line.IsWritten : Line → String → Prop
  | header (direction : String) : IsWritten (.header direction) ("flowchart " ++ direction)
  | note (text : String) : IsWritten (.note text) ("  %% Note: " ++ text)
  | opening (number : Nat) (title : String) :
      IsWritten (.opening number title)
        ("  subgraph s" ++ toString number ++ "[\"" ++ title ++ "\"]")
  | closing : IsWritten .closing "  end"
  | inside (rank : Nat) (shape : Brackets) (label : String) :
      IsWritten (.node true rank shape label)
        ("    n" ++ toString rank ++ shape.opening ++ label ++ shape.closing)
  | outside (rank : Nat) (shape : Brackets) (label : String) :
      IsWritten (.node false rank shape label)
        ("  n" ++ toString rank ++ shape.opening ++ label ++ shape.closing)
  | edge (source target : Nat) {arrow : Arrow} {drawn : String}
      (harrow : (arrow, drawn) ∈ [(.directed, "-->"), (.plain, "---"), (.both, "<-->")]) :
      IsWritten (.edge source target arrow none)
        ("  n" ++ toString source ++ " " ++ drawn ++ " n" ++ toString target)
  | labelled (source target : Nat) (label : String) {arrow : Arrow} {drawn : String}
      (harrow : (arrow, drawn) ∈ [(.directed, "-->"), (.plain, "---"), (.both, "<-->")]) :
      IsWritten (.edge source target arrow (some label))
        ("  n" ++ toString source ++ " " ++ drawn ++ "|" ++ label ++ "| n" ++ toString target)

theorem Mermaid.Line.isWritten_text (line : Line) : line.IsWritten line.text := by
  have harrow (arrow : Arrow) :
      (arrow, arrow.text) ∈ [(.directed, "-->"), (.plain, "---"), (.both, "<-->")] := by
    cases arrow <;> decide
  have hname (front : String) (rank : Nat) : front ++ nodeName rank =
      front ++ "n" ++ toString rank := String.append_assoc.symm
  cases line with
  | header direction => exact .header direction
  | note text => exact .note text
  | opening number title => exact .opening number title
  | closing => exact .closing
  | node inside rank shape label =>
    cases inside with
    | true =>
      rw [text, if_pos rfl, hname]
      exact .inside rank shape label
    | false =>
      rw [text, if_neg Bool.false_ne_true, hname]
      exact .outside rank shape label
  | edge source target arrow label =>
    cases label with
    | none =>
      rw [text, hname, hname, @String.append_assoc (_ ++ arrow.text) " " "n"]
      exact .edge source target (harrow arrow)
    | some label =>
      rw [text, hname, hname, @String.append_assoc (_ ++ label) "| " "n"]
      exact .labelled source target label (harrow arrow)

namespace Page

/-- What the lines of a flowchart are. -/
structure Draws (page : Page) (direction : String) (lines : List Line) : Prop where
  order : lines = .header direction :: (page.noteTexts.map Line.note ++
    page.sections.zipIdx.flatMap (fun (group, i) => page.groupLines (page.sections.take i) group) ++
    page.nodeLines page.shownIds false page.unlisted ++ page.linkedEdges.map page.edgeLine)
  written : ∀ line ∈ lines, line.IsWritten line.text
  ranks : page.shownIds.map (rankIn page.shownIds) = List.range' 1 page.shownIds.length
  defined : ∀ id ∈ page.nodeIds, (lines.filterMap Line.definedName?).count (page.nameOf id) = 1 ∧
    ∃ node inside, page.nodeOf? id = some node ∧ node.line inside (rankIn page.shownIds id) ∈ lines
  defined_only : ∀ name ∈ lines.filterMap Line.definedName?,
    ∃ id ∈ page.nodeIds, page.nameOf id = name
  grouped : ∀ earlier group later, page.sections = earlier ++ group :: later →
    page.groupLines earlier group <:+: lines ∧
      (page.groupLines earlier group).filterMap Line.definedName? =
        (page.firstListed earlier group).map page.nameOf ∧
      (page.firstListed earlier group).Sublist group.members ∧
      ∀ id, id ∈ page.firstListed earlier group ↔
        id ∈ group.members ∧ id ∈ page.nodeIds ∧ ∀ g ∈ earlier, id ∉ g.members
  topLevel : ∀ id ∈ page.nodeIds, page.nameOf id ∈ lines.filterMap Line.topName? ↔
    ∀ g ∈ page.sections, id ∉ g.members
  linked : ∀ name ∈ lines.flatMap Line.usedNames, name ∈ lines.filterMap Line.definedName?
  blockNames : (lines.filterMap Line.blockName?).Nodup
  closed : lines.foldlM Line.openAfter? false = some false

variable {page : Page}

theorem draws_lines (page : Page) (direction : String) :
    page.Draws direction (page.lines direction) where
  order := lines_eq page direction
  written := fun line _ => line.isWritten_text
  ranks := map_rankIn (nodup_distinct _)
  defined := fun _ h =>
    ⟨count_definedNames_lines h direction, exists_line_of_mem_nodeIds h direction⟩
  defined_only := fun _ h => mem_definedNames_lines.mp h
  grouped := fun earlier group _ h =>
    ⟨groupLines_isInfix h direction, definedNames_groupLines page earlier group,
      firstListed_sublist earlier group, fun _ => mem_firstListed⟩
  topLevel := fun _ h => mem_topNames_lines h
  linked := fun _ h => mem_definedNames_of_mem_usedNames h
  blockNames := nodup_blockNames_lines page direction
  closed := foldlM_openAfter?_lines page direction

theorem oneLine_direction {given : Option String} {direction : String}
    (hgiven : ∀ word, given = some word → OneLine word)
    (h : page.direction? given = some direction) : OneLine direction := by
  unfold direction? at h
  split at h
  · rename_i word hword
    cases h
    exact hgiven _ (Option.filter_eq_some_iff.mp hword).1
  · obtain ⟨detected, _, rfl⟩ := Option.map_eq_some_iff.mp h
    cases detected <;> decide

/-- A page is rendered whenever a direction is given or its coordinates have binary forms, and the
lines of the text are then lines that draw the page. -/
theorem mermaid?_draws (page : Page) (given : Option String)
    (hgiven : ∀ word, given = some word → OneLine word) :
    (given.filter (!·.isEmpty) ≠ none ∨ page.HasBinaryPlaces →
      ∃ text, page.mermaid? given = some text) ∧
    ∀ text, page.mermaid? given = some text →
      ∃ direction lines, page.direction? given = some direction ∧
        (text.split '\n').toList.map (·.copy) = lines.map Line.text ∧
        page.Draws direction lines := by
  constructor
  · intro h
    obtain ⟨direction, hd⟩ := exists_direction? given h
    exact ⟨page.flowchart direction, by rw [mermaid?, hd, Option.map_some]⟩
  · intro text htext
    obtain ⟨direction, hd, rfl⟩ := Option.map_eq_some_iff.mp htext
    have hline := oneLine_direction hgiven hd
    exact ⟨direction, page.lines direction, hd, split_flowchart hline, draws_lines page direction⟩

/-- A page with a repeated node id, sections that overlap and an edge to an unknown node. -/
def tangledPage : Page where
  id := "p"
  name := "Tangled"
  nodes := [⟨"a", "Start", none, none, none, none⟩, ⟨"b", "", some "DIAMOND", none, none, none⟩,
    ⟨"a", "Again", none, none, none, none⟩, ⟨"c", "End", none, none, none, none⟩]
  edges := [⟨"a", "b", some "yes", "line"⟩, ⟨"a", "gone", none, "arrow"⟩]
  sections := [⟨"s", "One", ["b", "b", "gone"]⟩, ⟨"t", "Two", ["b"]⟩, ⟨"u", "", ["c", "b"]⟩]
  stickies := [⟨"n", "[]"⟩, ⟨"m", "note"⟩]

theorem tangledPage_draws :
    (∀ word, some "LR" = some word → OneLine word) ∧
    tangledPage.mermaid? (some "LR") = some (tangledPage.flowchart "LR") ∧
    ∃ direction lines, tangledPage.direction? (some "LR") = some direction ∧
      ((tangledPage.flowchart "LR").split '\n').toList.map (·.copy) = lines.map Line.text ∧
      tangledPage.Draws direction lines := by
  have hgiven : ∀ word, some "LR" = some word → OneLine word := by
    intro word h
    cases h
    decide
  have htext : tangledPage.mermaid? (some "LR") = some (tangledPage.flowchart "LR") := by rfl
  exact ⟨hgiven, htext, (mermaid?_draws tangledPage (some "LR") hgiven).2 _ htext⟩

example : (tangledPage.lines "LR").map Line.text =
    ["flowchart LR", "  %% Note: note", "  subgraph s1[\"One\"]", "    n2\x7bb\x7d", "  end",
      "  subgraph s3[\"Section 3\"]", "    n3[End]", "  end", "  n1[Start]",
      "  n1 ---|yes| n2"] := by
  decide

end Page

end FlowBoard
