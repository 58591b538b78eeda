import FlowBoard.Proofs.Mermaid.Direction
import FlowBoard.Proofs.Mermaid.Lines
import FlowBoard.Proofs.Mermaid.Shapes

/-!
# Text stays in its place

Brackets and braces, quotes, bars, backticks and all blanks but the plain space mean something in a
flowchart. The text of a page holds none of them when it is drawn, so those that stand in a line are
the delimiters of its form, no text adds a line, and the fences around a flowchart are the only
ones.
-/

namespace FlowBoard

namespace Text

/-- Characters at which a text can be broken into lines. -/
def isLineBreak (c : Char) : Bool :=
  [0x0A, 0x0B, 0x0C, 0x0D, 0x1C, 0x1D, 0x1E, 0x85, 0x2028, 0x2029].contains c.toNat

theorem isBlank_of_isLineBreak {c : Char} (h : isLineBreak c = true) : isBlank c = true := by
  simp only [isLineBreak, List.contains_eq_mem, decide_eq_true_eq, List.mem_cons,
    List.not_mem_nil, or_false] at h
  rcases h with h | h | h | h | h | h | h | h | h | h <;> simp [isBlank, h]

/-- Pieces without a separator are what a text of them, joined by one, is split into. -/
theorem splitOnP_intercalate {p : Char → Bool} {separator : Char} (hseparator : p separator = true)
    {pieces : List String} (hne : pieces ≠ []) (h : ∀ s ∈ pieces, ∀ c ∈ s.toList, p c = false) :
    (String.intercalate (String.singleton separator) pieces).toList.splitOnP p =
      pieces.map String.toList := by
  induction pieces with
  | nil => exact absurd rfl hne
  | cons s rest ih =>
    have hs := h s List.mem_cons_self
    cases rest with
    | nil => rw [String.intercalate_singleton, List.splitOnP_eq_singleton hs, List.map_singleton]
    | cons t rest =>
      have hrest := ih (List.cons_ne_nil t rest) fun u hu => h u (List.mem_cons_of_mem s hu)
      have htext : (String.intercalate (String.singleton separator) (s :: t :: rest)).toList =
          s.toList ++ separator ::
            (String.intercalate (String.singleton separator) (t :: rest)).toList := by
        rw [String.intercalate_cons_cons]
        simp [String.toList_append]
      rw [htext, List.splitOnP_append_cons_of_forall_mem hs _ hseparator, hrest]
      rfl

/-- What is in a joined text is in a piece of it or in the separator. -/
theorem mem_intercalate {separator : String} {pieces : List String} {c : Char}
    (h : c ∈ (String.intercalate separator pieces).toList) :
    c ∈ separator.toList ∨ ∃ s ∈ pieces, c ∈ s.toList := by
  induction pieces with
  | nil => cases h
  | cons s rest ih =>
    cases rest with
    | nil =>
      rw [String.intercalate_singleton] at h
      exact Or.inr ⟨s, List.mem_cons_self, h⟩
    | cons t rest =>
      rw [String.intercalate_cons_cons, String.toList_append, String.toList_append,
        List.mem_append, List.mem_append] at h
      rcases h with (hs | hseparator) | hrest
      · exact Or.inr ⟨s, List.mem_cons_self, hs⟩
      · exact Or.inl hseparator
      · rcases ih hrest with hseparator | ⟨u, hu, hc⟩
        · exact Or.inl hseparator
        · exact Or.inr ⟨u, List.mem_cons_of_mem s hu, hc⟩

end Text

namespace Mermaid

/-! ## Characters that mean nothing -/

/-- Characters that mean nothing to a flowchart. -/
def isInert (c : Char) : Bool :=
  c == ' ' || !(Text.isBlank c || isDelimiter c || c == '"' || c == '|' || c == backtick)

def Inert (s : String) : Prop := ∀ c ∈ s.toList, isInert c = true

instance (s : String) : Decidable (Inert s) := List.decidableBAll _ s.toList

theorem inert_append {s t : String} : Inert (s ++ t) ↔ Inert s ∧ Inert t := by
  simp only [Inert, String.toList_append, List.mem_append, or_imp, forall_and]

theorem isInert_of_isDigit {c : Char} (h : c.isDigit = true) : isInert c = true := by
  have hdigits : ∀ n ∈ List.range' 48 10, isInert (Char.ofNat n) = true := by decide
  have hcode : 48 ≤ c.toNat ∧ c.toNat ≤ 57 := by
    simpa [Char.isDigit, UInt32.le_iff_toNat_le] using h
  have hmem : c.toNat ∈ List.range' 48 10 := by
    rw [List.mem_range'_1]
    omega
  have hc := hdigits _ hmem
  rwa [Char.ofNat_toNat] at hc

theorem inert_nat (n : Nat) : Inert (toString n) := by
  intro c hc
  rw [Nat.toString_eq_repr, Nat.toList_repr] at hc
  exact isInert_of_isDigit (Nat.isDigit_of_mem_toDigits (by decide) (by decide) hc)

theorem inert_nodeName (rank : Nat) : Inert (nodeName rank) :=
  inert_append.mpr ⟨by decide, inert_nat rank⟩

/-- Softening leaves no quote, no bar and no backtick. -/
theorem soften_ne (c : Char) : soften c ≠ '"' ∧ soften c ≠ '|' ∧ soften c ≠ backtick := by
  unfold soften
  split_ifs with hquote hbar
  · decide
  · decide
  · simp only [Bool.or_eq_true, decide_eq_true_eq, not_or] at hquote
    exact ⟨hquote.1, hbar, hquote.2⟩

theorem exists_soften_of_mem_sanitize {s : String} {c : Char} (hc : c ∈ (sanitize s).toList) :
    ∃ d, c = soften d := by
  rw [sanitize, Text.toList_onChars, sanitizeChars] at hc
  have hkept := List.mem_of_mem_filter ((Text.trimChars_sublist _).subset hc)
  obtain ⟨d, _, rfl⟩ := List.mem_map.mp hkept
  exact ⟨d, rfl⟩

theorem inert_sanitize (s : String) : Inert (sanitize s) := by
  intro c hc
  obtain ⟨d, hd⟩ := exists_soften_of_mem_sanitize hc
  obtain ⟨hquote, hbar, hbacktick⟩ := soften_ne d
  rw [← hd] at hquote hbar hbacktick
  have hdelimiter := isDelimiter_of_mem_sanitize hc
  by_cases hblank : Text.isBlank c = true
  · rw [eq_space_of_mem_sanitize hc hblank]
    decide
  · simp [isInert, hblank, hdelimiter, hquote, hbar, hbacktick]

theorem inert_of_shownText? {s shown : String} (h : shownText? s = some shown) : Inert shown := by
  simp only [shownText?] at h
  split_ifs at h
  obtain rfl := Option.some.inj h
  exact inert_sanitize s

theorem inert_shownText?_getD {s other : String} (h : Inert other) :
    Inert ((shownText? s).getD other) := by
  cases hs : shownText? s with
  | none => exact h
  | some shown => exact inert_of_shownText? hs

theorem inert_shownLabel (node : Node) (rank : Nat) : Inert (node.shownLabel rank) :=
  inert_shownText?_getD (inert_shownText?_getD (inert_nodeName rank))

/-! ## Ends of texts -/

/-- The text ends with a character that is not blank. -/
def EndsSolid (s : String) : Prop := Text.endsSolid s.toList = true

instance (s : String) : Decidable (EndsSolid s) := inferInstanceAs (Decidable (_ = true))

theorem EndsSolid.append {t : String} (h : EndsSolid t) (s : String) : EndsSolid (s ++ t) := by
  rw [EndsSolid, String.toList_append]
  exact Text.endsSolid_append _ h

theorem endsSolid_nat (n : Nat) : EndsSolid (toString n) := by
  have hchars : (toString n).toList = Nat.toDigits 10 n := by
    rw [Nat.toString_eq_repr, Nat.toList_repr]
  cases hlast : (Nat.toDigits 10 n).getLast? with
  | none => exact absurd (List.getLast?_eq_none_iff.mp hlast) Nat.toDigits_ne_nil
  | some c =>
    have hdigit := Nat.isDigit_of_mem_toDigits (by decide) (by decide)
      (List.mem_of_getLast? hlast)
    have hinert := isInert_of_isDigit hdigit
    have hsolid : Text.isBlank c = false := by
      by_contra hblank
      rw [Bool.not_eq_false] at hblank
      obtain rfl : c = ' ' := by simpa [isInert, hblank] using hinert
      exact absurd hdigit (by decide)
    rw [EndsSolid, hchars, Text.endsSolid, hlast, Option.any_some, hsolid]
    rfl

theorem endsSolid_nodeName (rank : Nat) : EndsSolid (nodeName rank) := (endsSolid_nat rank).append _

theorem endsSolid_sanitize {s : String} (h : sanitize s ≠ "") : EndsSolid (sanitize s) := by
  have hkept : sanitizeChars s.toList ≠ [] := by
    intro hnil
    exact h (by rw [sanitize, Text.onChars, hnil])
  rw [EndsSolid, sanitize, Text.toList_onChars]
  exact Text.endsSolid_trimRight hkept

theorem endsSolid_brackets {shape : Brackets} (h : shape ∈ shapes.map Prod.snd) :
    EndsSolid shape.closing := by
  have hall : ∀ b ∈ shapes.map Prod.snd, EndsSolid b.closing := by decide
  exact hall shape h

/-! ## Forms of lines -/

namespace Line

/-- The characters of a line that mean something: those of its delimiters. -/
def marks : Line → List Char
  | .opening .. => ['[', '"', '"', ']']
  | .node _ _ shape _ => shape.marks
  | .edge _ _ _ (some _) => ['|', '|']
  | _ => []

/-- The forms of lines, with texts that mean nothing in the places of texts. -/
inductive Contained : Line → Prop
  | header (direction : Direction) : Contained (.header direction.name)
  | note {text : String} (h : Inert text) (hend : EndsSolid text) : Contained (.note text)
  | opening (number : Nat) {title : String} (h : Inert title) : Contained (.opening number title)
  | closing : Contained .closing
  | node (inside : Bool) (rank : Nat) {shape : Brackets} {label : String}
      (hshape : shape ∈ shapes.map Prod.snd) (h : Inert label) :
      Contained (.node inside rank shape label)
  | edge (source target : Nat) (arrow : Arrow) {label : Option String}
      (h : ∀ text ∈ label, Inert text) : Contained (.edge source target arrow label)

end Line

/-- The characters of a text that mean something. -/
def marksOf (s : String) : List Char := s.toList.filter (!isInert ·)

theorem marksOf_append (s t : String) : marksOf (s ++ t) = marksOf s ++ marksOf t := by
  rw [marksOf, String.toList_append, List.filter_append, marksOf, marksOf]

theorem marksOf_of_inert {s : String} (h : Inert s) : marksOf s = [] :=
  List.filter_eq_nil_iff.mpr fun c hc => by simp [h c hc]

theorem marksOf_brackets {shape : Brackets} (h : shape ∈ shapes.map Prod.snd) :
    marksOf shape.opening ++ marksOf shape.closing = shape.marks := by
  have hall : ∀ b ∈ shapes.map Prod.snd, marksOf b.opening ++ marksOf b.closing = b.marks := by
    decide
  exact hall shape h

/-- What means something in a line are the delimiters of its form. -/
theorem Line.Contained.marksOf_text {line : Line} (h : line.Contained) :
    marksOf line.text = line.marks := by
  cases h with
  | header direction => cases direction <;> decide
  | note h =>
    rw [Line.text, marksOf_append, marksOf_of_inert h]
    rfl
  | opening number h =>
    simp only [Line.text, marksOf_append, marksOf_of_inert (inert_nat number),
      marksOf_of_inert h]
    rfl
  | closing => decide
  | node inside rank hshape h =>
    have hindent : marksOf (if inside then "    " else "  ") = [] := by cases inside <;> decide
    simp only [Line.text, marksOf_append, hindent, marksOf_of_inert (inert_nodeName rank),
      marksOf_of_inert h, List.nil_append, List.append_nil]
    exact marksOf_brackets hshape
  | @edge source target arrow label h =>
    have harrow : marksOf arrow.text = [] := by cases arrow <;> decide
    cases label with
    | none =>
      simp only [Line.text, marksOf_append, harrow, marksOf_of_inert (inert_nodeName _)]
      rfl
    | some text =>
      simp only [Line.text, marksOf_append, harrow, marksOf_of_inert (inert_nodeName _),
        marksOf_of_inert (h text rfl)]
      rfl

theorem Line.Contained.mem_marks {line : Line} (h : line.Contained) {c : Char}
    (hc : c ∈ line.marks) : isDelimiter c = true ∨ c = '"' ∨ c = '|' := by
  have hmarks : ∀ c ∈ ['[', '"', '"', ']'] ++ ['|', '|'],
      isDelimiter c = true ∨ c = '"' ∨ c = '|' := by
    simp [isDelimiter]
  cases h with
  | header | note | closing => cases hc
  | opening number _ => exact hmarks c (List.mem_append_left _ hc)
  | node inside rank _ _ => exact Or.inl (List.mem_filter.mp hc).2
  | @edge source target arrow label _ =>
    cases label with
    | none => cases hc
    | some text => exact hmarks c (List.mem_append_right _ hc)

/-- A line is not broken, and no fence can stand in it. -/
theorem Line.Contained.mem_text {line : Line} (h : line.Contained) {c : Char}
    (hc : c ∈ line.text.toList) : Text.isLineBreak c = false ∧ c ≠ backtick := by
  by_cases hinert : isInert c = true
  · constructor
    · by_contra hbreak
      rw [Bool.not_eq_false] at hbreak
      obtain rfl : c = ' ' := by
        simpa [isInert, Text.isBlank_of_isLineBreak hbreak] using hinert
      exact absurd hbreak (by decide)
    · rintro rfl
      exact absurd hinert (by decide)
  · have hmark : c ∈ line.marks := by
      rw [← h.marksOf_text]
      exact List.mem_filter.mpr ⟨hc, by simpa using hinert⟩
    rcases h.mem_marks hmark with hdelimiter | rfl | rfl
    · simp only [isDelimiter, Bool.or_eq_true, beq_iff_eq] at hdelimiter
      rcases hdelimiter with ((rfl | rfl) | rfl) | rfl <;> decide
    · decide
    · decide

/-- No blank is left at the end of a line. -/
theorem Line.Contained.endsSolid_text {line : Line} (h : line.Contained) : EndsSolid line.text := by
  cases h with
  | header direction => cases direction <;> decide
  | note _ hend => exact hend.append _
  | opening => exact EndsSolid.append (by decide) _
  | closing => decide
  | node inside rank hshape _ => exact (endsSolid_brackets hshape).append _
  | @edge source target arrow label _ =>
    cases label with
    | none => exact (endsSolid_nodeName target).append _
    | some text => exact (endsSolid_nodeName target).append _

end Mermaid

open Mermaid

namespace Page

variable {page : Page}

/-! ## Lines of a page -/

theorem inert_title {block : Block} (h : block ∈ page.blocks) : Inert block.title := by
  rw [blocks_eq] at h
  obtain ⟨⟨group, i⟩, _, hblock⟩ := List.mem_filterMap.mp h
  simp only [block?] at hblock
  split_ifs at hblock
  have hnumbered : Inert ("Section " ++ toString ((page.sections.take i).length + 1)) :=
    inert_append.mpr ⟨by decide, inert_nat _⟩
  have htitle : block.title = (shownText? group.label).getD
      ("Section " ++ toString ((page.sections.take i).length + 1)) := by
    rw [← Option.some.inj hblock]
  rw [htitle]
  exact inert_shownText?_getD hnumbered

theorem contained_nodeLine (node : Node) (inside : Bool) (rank : Nat) :
    (node.line inside rank).Contained :=
  .node inside rank (brackets_mem node.shape) (inert_shownLabel node rank)

theorem contained_edgeLine (page : Page) (edge : Edge) : (page.edgeLine edge).Contained := by
  refine .edge _ _ _ fun text htext => ?_
  obtain ⟨label, _, hlabel⟩ := Option.bind_eq_some_iff.mp htext
  exact inert_of_shownText? hlabel

theorem contained_of_mem_noteLines {line : Line} (h : line ∈ page.noteLines) : line.Contained := by
  rw [noteLines_eq] at h
  obtain ⟨text, htext, rfl⟩ := List.mem_map.mp h
  obtain ⟨hmem, hne⟩ := List.mem_filter.mp htext
  obtain ⟨note, _, rfl⟩ := List.mem_map.mp hmem
  exact .note (inert_sanitize note.text) (endsSolid_sanitize (by simpa using hne))

theorem contained_of_mem_lines {direction : Direction} {line : Line}
    (h : line ∈ page.lines direction.name) : line.Contained := by
  simp only [lines, List.mem_cons, List.mem_append, List.mem_flatMap] at h
  rcases h with rfl | ((hnote | ⟨block, hb, hblock⟩) | hloose) | hedge
  · exact .header direction
  · exact contained_of_mem_noteLines hnote
  · simp only [blockLines, List.mem_cons, List.mem_append, List.not_mem_nil, or_false] at hblock
    rcases hblock with rfl | hmember | rfl
    · exact .opening _ (inert_title hb)
    · obtain ⟨id, _, node, _, rfl⟩ := exists_node_of_mem_nodeLines hmember
      exact contained_nodeLine node true _
    · exact .closing
  · obtain ⟨id, _, node, _, rfl⟩ := exists_node_of_mem_nodeLines hloose
    exact contained_nodeLine node false _
  · obtain ⟨edge, _, _, rfl⟩ := exists_edge_of_mem_edgeLines hedge
    exact contained_edgeLine page edge

/-! ## The text and its block -/

/-- How a text is made up if it has these lines and nothing in it leaves its place. -/
structure Sealed (text : String) (lines : List Line) : Prop where
  split : text.toList.splitOnP Text.isLineBreak = lines.map (·.text.toList)
  contained : ∀ line ∈ lines, line.Contained
  marked : ∀ line ∈ lines, marksOf line.text = line.marks
  noBacktick : backtick ∉ text.toList
  fenced : block text = fence ++ "mermaid\n" ++ text ++ "\n" ++ fence ++ "\n"
  fences : ((block text).toList.splitOnP Text.isLineBreak).filter (·.contains backtick) =
    [(fence ++ "mermaid").toList, fence.toList]

theorem endsSolid_intercalate {pieces : List String} (hne : pieces ≠ [])
    (h : ∀ s ∈ pieces, EndsSolid s) : EndsSolid (String.intercalate "\n" pieces) := by
  induction pieces with
  | nil => exact absurd rfl hne
  | cons s rest ih =>
    cases rest with
    | nil =>
      rw [String.intercalate_singleton]
      exact h s List.mem_cons_self
    | cons t rest =>
      rw [String.intercalate_cons_cons]
      exact (ih (List.cons_ne_nil t rest) fun u hu => h u (List.mem_cons_of_mem s hu)).append _

theorem Mermaid.block_of_endsSolid {text : String} (h : EndsSolid text) :
    block text = fence ++ "mermaid\n" ++ text ++ "\n" ++ fence ++ "\n" := by
  rw [block, Text.onChars, Text.trimRight_of_endsSolid h, String.ofList_toList]

theorem split_block {text : String} {lines : List Line} (hend : EndsSolid text)
    (h : text.toList.splitOnP Text.isLineBreak = lines.map (·.text.toList)) :
    (block text).toList.splitOnP Text.isLineBreak =
      (fence ++ "mermaid").toList :: lines.map (·.text.toList) ++ [fence.toList, []] := by
  have hbreak : Text.isLineBreak '\n' = true := by decide
  have hopening : (fence ++ "mermaid").toList.splitOnP Text.isLineBreak =
      [(fence ++ "mermaid").toList] := by
    decide
  have hclosing : fence.toList.splitOnP Text.isLineBreak = [fence.toList] := by decide
  have hchars : (block text).toList = (fence ++ "mermaid").toList ++
      '\n' :: (text.toList ++ '\n' :: (fence.toList ++ '\n' :: [])) := by
    rw [Mermaid.block_of_endsSolid hend]
    simp [String.toList_append]
  rw [hchars, List.splitOnP_append_cons _ _ hbreak, List.splitOnP_append_cons _ _ hbreak,
    List.splitOnP_append_cons _ _ hbreak, hopening, hclosing, h]
  rfl

theorem endsSolid_flowchart (page : Page) (direction : Direction) :
    EndsSolid (page.flowchart direction.name) := by
  refine endsSolid_intercalate (by simp [lines]) fun s hs => ?_
  obtain ⟨line, hline, rfl⟩ := List.mem_map.mp hs
  exact (contained_of_mem_lines hline).endsSolid_text

theorem sealed_flowchart (page : Page) (direction : Direction) :
    Sealed (page.flowchart direction.name) (page.lines direction.name) := by
  have hcontained : ∀ line ∈ page.lines direction.name, line.Contained :=
    fun line => contained_of_mem_lines
  have hne : (page.lines direction.name).map Line.text ≠ [] := by simp [lines]
  have hsplit : (page.flowchart direction.name).toList.splitOnP Text.isLineBreak =
      (page.lines direction.name).map (·.text.toList) := by
    have hpieces : ∀ s ∈ (page.lines direction.name).map Line.text, ∀ c ∈ s.toList,
        Text.isLineBreak c = false := by
      intro s hs c hc
      obtain ⟨line, hline, rfl⟩ := List.mem_map.mp hs
      exact ((hcontained line hline).mem_text hc).1
    have hbreak : Text.isLineBreak '\n' = true := by decide
    have hbroken := Text.splitOnP_intercalate hbreak hne hpieces
    rw [List.map_map] at hbroken
    exact hbroken
  have hbacktick : ∀ line ∈ page.lines direction.name, backtick ∉ line.text.toList :=
    fun line hline hc => ((hcontained line hline).mem_text hc).2 rfl
  refine ⟨hsplit, hcontained, fun line hline => (hcontained line hline).marksOf_text, ?_,
    Mermaid.block_of_endsSolid (endsSolid_flowchart page direction), ?_⟩
  · intro hc
    rcases Text.mem_intercalate hc with hseparator | ⟨s, hs, hcs⟩
    · exact absurd hseparator (by decide)
    · obtain ⟨line, hline, rfl⟩ := List.mem_map.mp hs
      exact hbacktick line hline hcs
  · have hlines : ((page.lines direction.name).map (·.text.toList)).filter
        (·.contains backtick) = [] := by
      refine List.filter_eq_nil_iff.mpr fun cs hcs => ?_
      obtain ⟨line, hline, rfl⟩ := List.mem_map.mp hcs
      simpa using hbacktick line hline
    have hfirst : (fence ++ "mermaid").toList.contains backtick = true := by decide
    rw [split_block (endsSolid_flowchart page direction) hsplit, List.filter_append,
      List.filter_cons, if_pos hfirst, hlines]
    decide

theorem exists_direction_of_direction? {given : Option Direction} {word : String}
    (h : page.direction? (given.map Direction.name) = some word) :
    ∃ direction : Direction, word = direction.name := by
  cases given with
  | none =>
    obtain ⟨direction, _, hname⟩ := Option.map_eq_some_iff.mp h
    exact ⟨direction, hname.symm⟩
  | some direction =>
    refine ⟨direction, ?_⟩
    have hname : ∀ d : Direction, page.direction? (some d.name) = some d.name := by
      intro d
      cases d <;> rfl
    rw [Option.map_some, hname direction] at h
    exact (Option.some.inj h).symm

/-- Whatever the texts of a page are, none of them leaves its place in the flowchart: the lines are
those of the page, in their forms, and a fenced block of it has no other fences. -/
theorem mermaid?_sealed (page : Page) (given : Option Direction) :
    (given ≠ none ∨ page.HasBinaryPlaces →
      ∃ text, page.mermaid? (given.map Direction.name) = some text) ∧
    ∀ text, page.mermaid? (given.map Direction.name) = some text →
      ∃ direction : Direction, page.direction? (given.map Direction.name) = some direction.name ∧
        Sealed text (page.lines direction.name) := by
  constructor
  · intro h
    have hgiven : (given.map Direction.name).filter (!·.isEmpty) ≠ none ∨ page.HasBinaryPlaces := by
      rcases h with hsome | hplaces
      · cases given with
        | none => exact absurd rfl hsome
        | some direction => exact Or.inl (by cases direction <;> decide)
      · exact Or.inr hplaces
    obtain ⟨word, hword⟩ := exists_direction? (given.map Direction.name) hgiven
    exact ⟨page.flowchart word, by rw [mermaid?, hword, Option.map_some]⟩
  · intro text htext
    obtain ⟨word, hword, rfl⟩ := Option.map_eq_some_iff.mp htext
    obtain ⟨direction, rfl⟩ := exists_direction_of_direction? hword
    exact ⟨direction, hword, sealed_flowchart page direction⟩

/-- Every text of the page tries to end the place where it is shown. -/
def hostilePage : Page where
  id := "p"
  name := "\n"
  nodes := [⟨"a\nend", "x]\n  end\n", some "DIAMOND", none, none, none⟩,
    ⟨"\x60\x60\x60", "\"[\x7b|", some "\n", none, none, none⟩,
    ⟨"[]", "\u2028", none, none, none, none⟩]
  edges := [⟨"a\nend", "[]", some "|\n|", "--\n"⟩]
  sections := [⟨"s", "\"]\u0085end", ["[]", "a\nend"]⟩]
  stickies := [⟨"m", "\n\x60\x60\x60\n"⟩]

theorem hostilePage_sealed :
    (some Direction.lr ≠ none ∨ hostilePage.HasBinaryPlaces) ∧
    (∃ text, hostilePage.mermaid? (some Direction.lr.name) = some text) ∧
    hostilePage.mermaid? (some Direction.lr.name) = some (hostilePage.flowchart "LR") ∧
    ∃ direction : Direction, hostilePage.direction? (some Direction.lr.name) = some direction.name ∧
      Sealed (hostilePage.flowchart "LR") (hostilePage.lines direction.name) := by
  have hgiven : some Direction.lr ≠ none ∨ hostilePage.HasBinaryPlaces := Or.inl nofun
  have htext : hostilePage.mermaid? (some Direction.lr.name) =
      some (hostilePage.flowchart "LR") := rfl
  obtain ⟨hexists, hsealed⟩ := mermaid?_sealed hostilePage (some .lr)
  rw [Option.map_some] at hexists hsealed
  exact ⟨hgiven, hexists hgiven, htext, hsealed _ htext⟩

example : (hostilePage.lines "LR").map Line.text =
    ["flowchart LR", "  %% Note: '''", "  subgraph s1[\"' end\"]", "    n3[n3]",
      "    n1\x7bx end\x7d", "  end", "  n2['/]", "  n1 -->|/ /| n3"] := by
  decide

end Page

end FlowBoard
