import FlowBoard.Proofs.Mermaid.Contained

/-!
# A flowchart tells its outline

The outline of a page is what its flowchart shows but for the shapes and labels of nodes: how many
nodes there are, the notes, the blocks with the ranks of their members, the ranks outside blocks,
and the edges between ranks. Every line shows a sign, which is read back from the characters of the
line; so pages with the same flowchart have the same outline.
-/

namespace FlowBoard

namespace Mermaid

/-- What a line shows but for the shape and the label of a node. -/
inductive Sign
  | note (text : String)
  | opening (number : Nat) (title : String)
  | closing
  | node (inside : Bool) (rank : Nat)
  | edge (source target : Nat) (arrow : Arrow) (label : Option String)
deriving DecidableEq, Repr

/-- The sign of a line; the first line shows none. -/
def Line.sign? : Line → Option Sign
  | .header _ => none
  | .note text => some (.note text)
  | .opening number title => some (.opening number title)
  | .closing => some .closing
  | .node inside rank _ _ => some (.node inside rank)
  | .edge source target arrow label => some (.edge source target arrow label)

/-! ## Reading signs -/

/-- The number at the front, and what follows its digits. -/
def readNumber (cs : List Char) : Nat × List Char :=
  (Nat.ofDigitChars 10 (cs.takeWhile Char.isDigit) 0, cs.dropWhile Char.isDigit)

/-- The arrow at the front, and what follows it. -/
def readArrow : List Char → Arrow × List Char
  | '<' :: rest => (.both, rest.drop 3)
  | '-' :: '-' :: '-' :: rest => (.plain, rest)
  | cs => (.directed, cs.drop 3)

/-- The number and the title of an opening line. -/
def readOpening (cs : List Char) : Sign :=
  let (number, rest) := readNumber cs
  .opening number (String.ofList (rest.drop 2).dropLast.dropLast)

/-- The end of an edge line, after the space behind its source. -/
def readEdge (source : Nat) (cs : List Char) : Sign :=
  let (arrow, rest) := readArrow cs
  match rest with
  | '|' :: rest =>
    .edge source (readNumber ((rest.dropWhile (· != '|')).drop 3)).1 arrow
      (some (String.ofList (rest.takeWhile (· != '|'))))
  | rest => .edge source (readNumber (rest.drop 2)).1 arrow none

/-- What follows the first letter of a name at the top level: a space only in an edge line. -/
def readNamed (cs : List Char) : Sign :=
  match readNumber cs with
  | (source, ' ' :: rest) => readEdge source rest
  | (rank, _) => .node false rank

/-- The sign that a line shows. -/
def readSign? : List Char → Option Sign
  | ' ' :: ' ' :: '%' :: rest => some (.note (String.ofList (rest.drop 8)))
  | ' ' :: ' ' :: 's' :: rest => some (readOpening (rest.drop 9))
  | ' ' :: ' ' :: 'e' :: _ => some .closing
  | ' ' :: ' ' :: ' ' :: ' ' :: 'n' :: rest => some (.node true (readNumber rest).1)
  | ' ' :: ' ' :: 'n' :: rest => some (readNamed rest)
  | _ => none

theorem readNumber_toDigits (n : Nat) {rest : List Char}
    (h : ∀ c ∈ rest.head?, c.isDigit = false) :
    readNumber (Nat.toDigits 10 n ++ rest) = (n, rest) := by
  have hdigits : ∀ c ∈ Nat.toDigits 10 n, c.isDigit = true := fun c hc =>
    Nat.isDigit_of_mem_toDigits (by decide) (by decide) hc
  have htake : rest.takeWhile Char.isDigit = [] := by
    cases rest with
    | nil => rfl
    | cons c rest => simp [h c rfl]
  have hdrop : rest.dropWhile Char.isDigit = rest := by
    cases rest with
    | nil => rfl
    | cons c rest => simp [h c rfl]
  rw [readNumber, List.takeWhile_append_of_pos hdigits, List.dropWhile_append_of_pos hdigits,
    htake, hdrop, List.append_nil, Nat.ofDigitChars_ten_toDigits]

theorem toList_nodeName (rank : Nat) : (nodeName rank).toList = 'n' :: Nat.toDigits 10 rank := by
  rw [nodeName, String.toList_append, Nat.toString_eq_repr, Nat.toList_repr]
  rfl

theorem readArrow_text (arrow : Arrow) (rest : List Char) :
    readArrow (arrow.text.toList ++ rest) = (arrow, rest) := by
  cases arrow <;> rfl

theorem readOpening_chars (number : Nat) (title : String) :
    readOpening (Nat.toDigits 10 number ++ '[' :: '"' :: (title.toList ++ ['"', ']'])) =
      .opening number title := by
  have hends : ((title.toList ++ ['"', ']']).dropLast).dropLast = title.toList := by
    rw [List.dropLast_append_of_ne_nil (List.cons_ne_nil _ _)]
    exact List.dropLast_concat
  rw [readOpening, readNumber_toDigits number (by simp)]
  change Sign.opening number (String.ofList _) = _
  rw [List.drop_succ_cons, List.drop_succ_cons, List.drop_zero, hends, String.ofList_toList]

theorem readEdge_bare (source target : Nat) (arrow : Arrow) :
    readEdge source (arrow.text.toList ++ ' ' :: 'n' :: Nat.toDigits 10 target) =
      .edge source target arrow none := by
  have hnumber : readNumber (Nat.toDigits 10 target ++ []) = (target, []) :=
    readNumber_toDigits target (by simp)
  rw [List.append_nil] at hnumber
  rw [readEdge, readArrow_text]
  change Sign.edge source (readNumber (Nat.toDigits 10 target)).1 arrow none = _
  rw [hnumber]

theorem readEdge_labelled (source target : Nat) (arrow : Arrow) {label : String}
    (h : ∀ c ∈ label.toList, (c != '|') = true) :
    readEdge source (arrow.text.toList ++ '|' :: (label.toList ++
      '|' :: ' ' :: 'n' :: Nat.toDigits 10 target)) = .edge source target arrow (some label) := by
  have hnumber : readNumber (Nat.toDigits 10 target ++ []) = (target, []) :=
    readNumber_toDigits target (by simp)
  rw [List.append_nil] at hnumber
  rw [readEdge, readArrow_text]
  change Sign.edge source (readNumber (List.drop 3 (List.dropWhile _ _))).1 arrow
    (some (String.ofList (List.takeWhile _ _))) = _
  rw [List.dropWhile_append_of_pos h, List.takeWhile_append_of_pos h,
    List.dropWhile_cons_of_neg (by decide), List.takeWhile_cons_of_neg (by decide), List.append_nil,
    String.ofList_toList, List.drop_succ_cons, List.drop_succ_cons, List.drop_succ_cons,
    List.drop_zero, hnumber]

theorem readNamed_edge (source : Nat) (rest : List Char) :
    readNamed (Nat.toDigits 10 source ++ ' ' :: rest) = readEdge source rest := by
  rw [readNamed, readNumber_toDigits source (by simp)]
  rfl

theorem readNamed_node (rank : Nat) {c : Char} (hdigit : c.isDigit = false) (hspace : c ≠ ' ')
    (rest : List Char) : readNamed (Nat.toDigits 10 rank ++ c :: rest) = .node false rank := by
  rw [readNamed, readNumber_toDigits rank (by simpa using hdigit)]
  split
  · rename_i heq
    exact absurd (List.cons.inj (Prod.mk.inj heq).2).1 hspace
  · rename_i heq
    rw [(Prod.mk.inj heq).1]

/-- A shape opens with a character that is no digit and no space. -/
theorem exists_opening_cons {shape : Brackets} (h : shape ∈ shapes.map Prod.snd) :
    ∃ c rest, shape.opening.toList = c :: rest ∧ c.isDigit = false ∧ c ≠ ' ' := by
  have hall : ∀ b ∈ shapes.map Prod.snd,
      b.opening.toList.head?.any (fun c => !c.isDigit && c != ' ') = true := by
    decide
  have hhead := hall shape h
  cases hchars : shape.opening.toList with
  | nil =>
    rw [hchars] at hhead
    cases hhead
  | cons c rest =>
    rw [hchars] at hhead
    exact ⟨c, rest, rfl, by simpa using hhead⟩

/-- The sign of a line is read back from its text. -/
theorem readSign?_text {line : Line} (h : line.Contained) :
    readSign? line.text.toList = line.sign? := by
  cases h with
  | header direction => cases direction <;> rfl
  | @note text _ _ =>
    rw [Line.text, String.toList_append]
    change some (Sign.note (String.ofList text.toList)) = _
    rw [String.ofList_toList]
    rfl
  | @opening number title _ =>
    have hchars : (Line.opening number title).text.toList = "  subgraph s".toList ++
        (Nat.toDigits 10 number ++ '[' :: '"' :: (title.toList ++ ['"', ']'])) := by
      simp [Line.text, String.toList_append, Nat.toString_eq_repr, Nat.toList_repr]
    rw [hchars]
    exact congrArg some (readOpening_chars number title)
  | closing => rfl
  | @node inside rank shape label hshape _ =>
    obtain ⟨c, rest, hopening, hdigit, hspace⟩ := exists_opening_cons hshape
    have hchars : (Line.node inside rank shape label).text.toList =
        (if inside then "    " else "  ").toList ++ 'n' :: (Nat.toDigits 10 rank ++
          c :: (rest ++ (label.toList ++ shape.closing.toList))) := by
      simp [Line.text, String.toList_append, toList_nodeName, hopening]
    rw [hchars]
    cases inside with
    | true =>
      change some (Sign.node true (readNumber _).1) = _
      rw [readNumber_toDigits rank (by simpa using hdigit)]
      rfl
    | false => exact congrArg some (readNamed_node rank hdigit hspace _)
  | @edge source target arrow label h =>
    have hfront (rest : List Char) : readSign? (' ' :: ' ' :: 'n' ::
        (Nat.toDigits 10 source ++ ' ' :: rest)) = some (readEdge source rest) :=
      congrArg some (readNamed_edge source rest)
    cases label with
    | none =>
      have hchars : (Line.edge source target arrow none).text.toList = ' ' :: ' ' :: 'n' ::
          (Nat.toDigits 10 source ++ ' ' :: (arrow.text.toList ++
            ' ' :: 'n' :: Nat.toDigits 10 target)) := by
        simp [Line.text, String.toList_append, toList_nodeName]
      rw [hchars, hfront, readEdge_bare]
      rfl
    | some text =>
      have hchars : (Line.edge source target arrow (some text)).text.toList = ' ' :: ' ' :: 'n' ::
          (Nat.toDigits 10 source ++ ' ' :: (arrow.text.toList ++ '|' :: (text.toList ++
            '|' :: ' ' :: 'n' :: Nat.toDigits 10 target))) := by
        simp [Line.text, String.toList_append, toList_nodeName]
      have hbar : ∀ c ∈ text.toList, (c != '|') = true := by
        intro c hc
        have hinert := h text rfl c hc
        rw [bne_iff_ne]
        rintro rfl
        exact absurd hinert (by decide)
      rw [hchars, hfront, readEdge_labelled source target arrow hbar]
      rfl

/-! ## Outlines -/

/-- A block: its number, its title and the ranks of its members. -/
structure BlockOutline where
  number : Nat
  title : String
  ranks : List Nat
deriving DecidableEq, Repr

/-- An edge between two ranks. -/
structure EdgeOutline where
  source : Nat
  target : Nat
  arrow : Arrow
  label : Option String
deriving DecidableEq, Repr

structure Outline where
  nodeCount : Nat
  notes : List String
  blocks : List BlockOutline
  loose : List Nat
  edges : List EdgeOutline
deriving DecidableEq, Repr

namespace Sign

def noteText? : Sign → Option String
  | .note text => some text
  | _ => none

def rank? : Sign → Option Nat
  | .node _ rank => some rank
  | _ => none

def looseRank? : Sign → Option Nat
  | .node false rank => some rank
  | _ => none

def edge? : Sign → Option EdgeOutline
  | .edge source target arrow label => some ⟨source, target, arrow, label⟩
  | _ => none

def isOpening : Sign → Bool
  | .opening .. => true
  | _ => false

end Sign

/-- The ranks of the members at the front. -/
def memberRanks : List Sign → List Nat
  | .node true rank :: rest => rank :: memberRanks rest
  | _ => []

/-- The blocks that are opened, each with the members that follow. -/
def blocksOf : List Sign → List BlockOutline
  | [] => []
  | .opening number title :: rest => ⟨number, title, memberRanks rest⟩ :: blocksOf rest
  | _ :: rest => blocksOf rest

namespace Outline

def ofSigns (signs : List Sign) : Outline where
  nodeCount := (signs.filterMap Sign.rank?).length
  notes := signs.filterMap Sign.noteText?
  blocks := blocksOf signs
  loose := signs.filterMap Sign.looseRank?
  edges := signs.filterMap Sign.edge?

/-- The outline that the lines of a text show. -/
def read (text : String) : Outline :=
  ofSigns ((text.toList.splitOnP Text.isLineBreak).filterMap readSign?)

end Outline

theorem blocksOf_append_of_not_isOpening {signs : List Sign} (h : ∀ s ∈ signs, s.isOpening = false)
    (rest : List Sign) : blocksOf (signs ++ rest) = blocksOf rest := by
  induction signs with
  | nil => rfl
  | cons sign signs ih =>
    have hsign := h sign List.mem_cons_self
    have hsigns := ih fun s hs => h s (List.mem_cons_of_mem sign hs)
    cases sign with
    | opening number title => cases hsign
    | note | closing | node | edge => exact hsigns

theorem memberRanks_map (ranks : List Nat) (rest : List Sign) :
    memberRanks (ranks.map (Sign.node true) ++ .closing :: rest) = ranks := by
  induction ranks with
  | nil => rfl
  | cons rank ranks ih => rw [List.map_cons, List.cons_append, memberRanks, ih]

/-- The signs of a block. -/
def BlockOutline.signs (block : BlockOutline) : List Sign :=
  .opening block.number block.title :: (block.ranks.map (Sign.node true) ++ [.closing])

theorem blocksOf_signs (blocks : List BlockOutline) (rest : List Sign) :
    blocksOf (blocks.flatMap BlockOutline.signs ++ rest) = blocks ++ blocksOf rest := by
  induction blocks with
  | nil => rfl
  | cons block blocks ih =>
    have hmembers : ∀ s ∈ block.ranks.map (Sign.node true) ++ [.closing], s.isOpening = false := by
      intro s hs
      rcases List.mem_append.mp hs with hnode | hclosing
      · obtain ⟨rank, _, rfl⟩ := List.mem_map.mp hnode
        rfl
      · obtain rfl := List.mem_singleton.mp hclosing
        rfl
    rw [List.flatMap_cons, List.append_assoc, BlockOutline.signs, List.cons_append, blocksOf,
      blocksOf_append_of_not_isOpening hmembers, ih, List.append_assoc, List.singleton_append,
      memberRanks_map, List.cons_append]

/-- The signs of an outline whose nodes all stand in its lists. -/
def Outline.signs (outline : Outline) : List Sign :=
  outline.notes.map .note ++ (outline.blocks.flatMap BlockOutline.signs ++
    (outline.loose.map (.node false) ++
      outline.edges.map fun e => .edge e.source e.target e.arrow e.label))

/-- How many nodes stand in the blocks and outside them. -/
def Outline.listed (outline : Outline) : Nat :=
  (outline.blocks.flatMap BlockOutline.ranks).length + outline.loose.length

theorem filterMap_blockSigns {γ : Type} {f : Sign → Option γ}
    (hopening : ∀ number title, f (.opening number title) = none) (hclosing : f .closing = none)
    (blocks : List BlockOutline) : (blocks.flatMap BlockOutline.signs).filterMap f =
      ((blocks.flatMap BlockOutline.ranks).map (Sign.node true)).filterMap f := by
  have hblock (block : BlockOutline) : block.signs.filterMap f =
      (block.ranks.map (Sign.node true)).filterMap f := by
    rw [BlockOutline.signs, List.filterMap_cons_none (hopening _ _), List.filterMap_append,
      List.filterMap_cons_none hclosing, List.filterMap_nil, List.append_nil]
  rw [List.filterMap_flatMap, List.map_flatMap, List.filterMap_flatMap]
  exact List.flatMap_congr fun block _ => hblock block

/-- What is read off the signs of an outline, by something that blocks show through the ranks of
their members only. -/
theorem Outline.filterMap_signs {γ : Type} {f : Sign → Option γ}
    (hopening : ∀ number title, f (.opening number title) = none) (hclosing : f .closing = none)
    (outline : Outline) : outline.signs.filterMap f =
      (outline.notes.map Sign.note).filterMap f ++
        (((outline.blocks.flatMap BlockOutline.ranks).map (Sign.node true)).filterMap f ++
          ((outline.loose.map (Sign.node false)).filterMap f ++
            (outline.edges.map fun e =>
              Sign.edge e.source e.target e.arrow e.label).filterMap f)) := by
  rw [signs, List.filterMap_append, List.filterMap_append, List.filterMap_append,
    filterMap_blockSigns hopening hclosing]

theorem Outline.blocksOf_signs (outline : Outline) : blocksOf outline.signs = outline.blocks := by
  have hnotes : ∀ s ∈ outline.notes.map Sign.note, s.isOpening = false := by
    intro s hs
    obtain ⟨text, _, rfl⟩ := List.mem_map.mp hs
    rfl
  have hrest : ∀ s ∈ outline.loose.map (Sign.node false) ++
      outline.edges.map (fun e => Sign.edge e.source e.target e.arrow e.label),
      s.isOpening = false := by
    intro s hs
    rcases List.mem_append.mp hs with hnode | hedge
    · obtain ⟨rank, _, rfl⟩ := List.mem_map.mp hnode
      rfl
    · obtain ⟨e, _, rfl⟩ := List.mem_map.mp hedge
      rfl
  have hnone := blocksOf_append_of_not_isOpening hrest []
  rw [List.append_nil] at hnone
  rw [signs, blocksOf_append_of_not_isOpening hnotes, Mermaid.blocksOf_signs, hnone]
  exact List.append_nil _

/-- An outline is what its signs show. -/
theorem Outline.ofSigns_signs {outline : Outline} (h : outline.nodeCount = outline.listed) :
    ofSigns outline.signs = outline := by
  have hcount : (outline.signs.filterMap Sign.rank?).length = outline.nodeCount := by
    rw [filterMap_signs (fun _ _ => rfl) rfl, h, listed]
    simp [List.filterMap_map, Function.comp_def, Sign.rank?]
  have hnotes : outline.signs.filterMap Sign.noteText? = outline.notes := by
    rw [filterMap_signs (fun _ _ => rfl) rfl]
    simp [List.filterMap_map, Function.comp_def, Sign.noteText?]
  have hloose : outline.signs.filterMap Sign.looseRank? = outline.loose := by
    rw [filterMap_signs (fun _ _ => rfl) rfl]
    simp [List.filterMap_map, Function.comp_def, Sign.looseRank?]
  have hedges : outline.signs.filterMap Sign.edge? = outline.edges := by
    rw [filterMap_signs (fun _ _ => rfl) rfl]
    simp [List.filterMap_map, Function.comp_def, Sign.edge?]
  rw [ofSigns, hcount, hnotes, hloose, hedges, outline.blocksOf_signs]

end Mermaid

open Mermaid

namespace Page

variable {page other : Page}

/-! ## The outline of a page -/

def blockOutline (page : Page) (block : Block) : BlockOutline :=
  ⟨block.number, block.title, block.members.map (rankIn page.shownIds)⟩

def edgeOutline (page : Page) (edge : Edge) : EdgeOutline :=
  ⟨rankIn page.shownIds edge.source, rankIn page.shownIds edge.target, arrowOf edge.kind,
    edge.label.bind shownText?⟩

/-- The number of distinct node ids, the notes that are left when they are made safe, the blocks,
the ranks of the nodes that no section lists, and the edges between nodes. -/
def outline (page : Page) : Outline where
  nodeCount := page.shownIds.length
  notes := page.noteTexts
  blocks := page.blocks.map page.blockOutline
  loose := page.unlisted.map (rankIn page.shownIds)
  edges := page.linkedEdges.map page.edgeOutline

theorem nodeCount_outline (page : Page) : page.outline.nodeCount = page.outline.listed := by
  have hperm : page.shownIds.Perm page.drawnIds := by
    refine (List.perm_ext_iff_of_nodup (nodup_distinct _) page.nodup_drawnIds).mpr fun id => ?_
    rw [mem_drawnIds, mem_distinct]
  have hlength : page.shownIds.length = page.drawnIds.length := hperm.length_eq
  have hblocks : (page.blocks.map page.blockOutline).flatMap BlockOutline.ranks =
      (page.blocks.flatMap Block.members).map (rankIn page.shownIds) := by
    rw [List.flatMap_map, List.map_flatMap]
    rfl
  rw [Outline.listed]
  change page.shownIds.length = (List.flatMap _ (page.blocks.map page.blockOutline)).length +
    (page.unlisted.map _).length
  rw [hblocks, List.length_map, List.length_map, hlength, drawnIds, List.length_append, looseIds_eq]

theorem signs_nodeLines {ids : List String} (h : ∀ id ∈ ids, id ∈ page.nodeIds) (inside : Bool) :
    (page.nodeLines page.shownIds inside ids).filterMap Line.sign? =
      (ids.map (rankIn page.shownIds)).map (Sign.node inside) := by
  rw [nodeLines, List.filterMap_filterMap, List.map_map, ← List.filterMap_eq_map]
  apply List.filterMap_congr
  intro id hid
  obtain ⟨node, hn⟩ := exists_nodeOf? (h id hid)
  rw [hn]
  rfl

theorem signs_blockLines {block : Block} (h : block ∈ page.blocks) :
    (page.blockLines page.shownIds block).filterMap Line.sign? =
      (page.blockOutline block).signs := by
  have hopening : Line.sign? (.opening block.number block.title) =
      some (.opening block.number block.title) := rfl
  rw [blockLines, List.filterMap_cons_some hopening, List.filterMap_append,
    signs_nodeLines fun id => mem_nodeIds_of_mem_block h]
  rfl

/-- The lines of a page show the signs of its outline. -/
theorem signs_lines (page : Page) (direction : String) :
    (page.lines direction).filterMap Line.sign? = page.outline.signs := by
  have hnotes : page.noteLines.filterMap Line.sign? = page.noteTexts.map Sign.note := by
    rw [noteLines_eq, List.filterMap_map, ← List.filterMap_eq_map]
    rfl
  have hblocks : (page.blocks.flatMap (page.blockLines page.shownIds)).filterMap Line.sign? =
      (page.blocks.map page.blockOutline).flatMap BlockOutline.signs := by
    rw [List.filterMap_flatMap, List.flatMap_map]
    exact List.flatMap_congr fun block hb => signs_blockLines hb
  have hloose : ∀ id ∈ page.looseIds, id ∈ page.nodeIds := fun id h => (mem_looseIds.mp h).1
  have hedges : (page.edgeLines page.shownIds).filterMap Line.sign? =
      page.outline.edges.map fun e => Sign.edge e.source e.target e.arrow e.label := by
    rw [edgeLines_eq, List.filterMap_map, outline, List.map_map, ← List.filterMap_eq_map]
    rfl
  rw [lines, List.filterMap_cons_none rfl, List.filterMap_append, List.filterMap_append,
    List.filterMap_append, hnotes, hblocks, signs_nodeLines hloose, hedges, looseIds_eq,
    List.append_assoc, List.append_assoc]
  rfl

/-! ## Reading the outline -/

/-- The lines after the first, each with a line break before it. -/
def body (page : Page) : String :=
  String.intercalate "\n" ("" :: (page.lines "").tail.map Line.text)

theorem intercalate_cons (separator s : String) (rest : List String) :
    String.intercalate separator (s :: rest) = s ++ String.intercalate separator ("" :: rest) := by
  cases rest with
  | nil => simp [String.intercalate_singleton]
  | cons t rest => simp [String.intercalate_cons_cons, String.append_assoc]

theorem flowchart_eq (page : Page) (direction : String) :
    page.flowchart direction = "flowchart " ++ direction ++ page.body :=
  intercalate_cons _ _ _

theorem contained_of_mem_tail {line : Line} (h : line ∈ (page.lines "").tail) :
    line.Contained := by
  have hmem : line ∈ page.lines Direction.td.name := List.mem_cons_of_mem _ h
  exact contained_of_mem_lines hmem

/-- The outline of a page is read from its lines. -/
theorem read_body (page : Page) : Outline.read page.body = page.outline := by
  have hpieces : ∀ s ∈ "" :: (page.lines "").tail.map Line.text, ∀ c ∈ s.toList,
      Text.isLineBreak c = false := by
    intro s hs c hc
    rcases List.mem_cons.mp hs with rfl | hs
    · cases hc
    · obtain ⟨line, hline, rfl⟩ := List.mem_map.mp hs
      exact ((contained_of_mem_tail hline).mem_text hc).1
  have hbreak : Text.isLineBreak '\n' = true := by decide
  have hsplit : page.body.toList.splitOnP Text.isLineBreak =
      ("" :: (page.lines "").tail.map Line.text).map String.toList :=
    Text.splitOnP_intercalate hbreak (List.cons_ne_nil _ _) hpieces
  have hsigns : ((page.lines "").tail.map fun line => line.text.toList).filterMap readSign? =
      page.outline.signs := by
    have hlines : (page.lines "").filterMap Line.sign? =
        (page.lines "").tail.filterMap Line.sign? := rfl
    rw [← page.signs_lines "", hlines, List.filterMap_map]
    exact List.filterMap_congr fun line hline => readSign?_text (contained_of_mem_tail hline)
  rw [Outline.read, hsplit, List.map_cons, List.map_map, List.filterMap_cons_none rfl]
  exact (congrArg Outline.ofSigns hsigns).trans (Outline.ofSigns_signs page.nodeCount_outline)

theorem length_direction?_eq {given : Option String} {direction direction' : String}
    (h : page.direction? given = some direction) (h' : other.direction? given = some direction') :
    direction.toList.length = direction'.toList.length := by
  unfold direction? at h h'
  cases hgiven : given.filter (!·.isEmpty) with
  | some word =>
    rw [hgiven] at h h'
    rw [← Option.some.inj h, ← Option.some.inj h']
  | none =>
    have hnames : ∀ d : Direction, d.name.toList.length = 2 := by intro d; cases d <;> rfl
    rw [hgiven] at h h'
    obtain ⟨d, _, rfl⟩ := Option.map_eq_some_iff.mp h
    obtain ⟨d', _, rfl⟩ := Option.map_eq_some_iff.mp h'
    rw [hnames d, hnames d']

/-- Pages with one flowchart have one outline: as many distinct node ids, the same notes, blocks and
ranks outside blocks, and the same edges. -/
theorem outline_eq_of_mermaid?_eq {given : Option String} {text : String}
    (h : page.mermaid? given = some text) (h' : other.mermaid? given = some text) :
    page.outline = other.outline := by
  obtain ⟨direction, hd, hpage⟩ := Option.map_eq_some_iff.mp h
  obtain ⟨direction', hd', hother⟩ := Option.map_eq_some_iff.mp h'
  have htexts : direction.toList ++ page.body.toList = direction'.toList ++ other.body.toList := by
    have hflowcharts := congrArg String.toList (hpage.trans hother.symm)
    rw [flowchart_eq, flowchart_eq] at hflowcharts
    simpa only [String.toList_append, List.append_assoc, List.append_cancel_left_eq]
      using hflowcharts
  have hbody : page.body = other.body :=
    String.toList_inj.mp (List.append_inj htexts (length_direction?_eq hd hd')).2
  rw [← read_body page, ← read_body other, hbody]

/-- Two pages that differ in ids, shapes and labels, and in what is not shown. -/
def storePage : Page where
  id := "p"
  name := "Stores"
  nodes := [⟨"a", "(Store)", none, none, none, none⟩, ⟨"b", "End", none, none, none, some "s"⟩]
  edges := [⟨"b", "a", some "a|b", "line"⟩, ⟨"a", "gone", none, "arrow"⟩]
  sections := [⟨"s", "", ["b", "gone"]⟩]
  stickies := [⟨"n", " note "⟩, ⟨"m", "[]"⟩]

def databasePage : Page where
  id := "q"
  name := ""
  nodes := [⟨"x", "Store", some "ENG_DATABASE", none, none, none⟩,
    ⟨"y", " End", none, none, none, none⟩,
    ⟨"x", "Again", none, none, none, none⟩]
  edges := [⟨"y", "x", some "a/b", "line"⟩]
  sections := [⟨"t", "Section 1", ["y", "y"]⟩, ⟨"u", "Empty", ["y"]⟩]
  stickies := [⟨"k", "note"⟩]

theorem outline_storePage :
    storePage.mermaid? none = some (storePage.flowchart "TD") ∧
      databasePage.mermaid? none = some (storePage.flowchart "TD") ∧
      storePage.outline = databasePage.outline := by
  have hstore : storePage.mermaid? none = some (storePage.flowchart "TD") := rfl
  have hdatabase : databasePage.mermaid? none = some (storePage.flowchart "TD") := by decide
  exact ⟨hstore, hdatabase, outline_eq_of_mermaid?_eq hstore hdatabase⟩

example : storePage.outline =
    { nodeCount := 2
      notes := ["note"]
      blocks := [⟨1, "Section 1", [2]⟩]
      loose := [1]
      edges := [⟨2, 1, .plain, some "a/b"⟩] } := by
  decide

end Page

end FlowBoard
