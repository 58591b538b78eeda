import FlowBoard.Payload
import FlowBoard.Proofs.Wire.SparseForm

/-!
# Canvas markup is taken whole

Every list of canvases that is read passes the check of page lists, and its document has one page
for each canvas, in order, with an id and a name. So a text in markup is refused only because it is
malformed or has no canvas, never because of a field.
-/

namespace FlowBoard

theorem Markup.ne_empty_of_given? {base value : String} {m : Markup}
    (h : m.given? base = some value) : value ≠ "" := by
  have hkept := (Option.filter_eq_some_iff.mp h).2
  simpa using hkept

namespace Canvas

open Wire

/-- The id of the canvas with that number. -/
def pageId (number : Nat) (m : Markup) : String :=
  (m.given? "id").getD ("canvas-" ++ toString number)

/-- The name of the canvas with that number. -/
def pageName (number : Nat) (m : Markup) : String :=
  (m.given? "name").getD ("Canvas " ++ toString number)

theorem pageId_ne_empty (number : Nat) (m : Markup) : pageId number m ≠ "" := by
  rw [pageId]
  cases h : m.given? "id" with
  | none => simp
  | some id => exact Markup.ne_empty_of_given? h

theorem pageName_ne_empty (number : Nat) (m : Markup) : pageName number m ≠ "" := by
  rw [pageName]
  cases h : m.given? "name" with
  | none => simp
  | some name => exact Markup.ne_empty_of_given? h

/-- What is read of a text: its markup without blanks around it and without a declaration, inside
an element of its own. -/
def readMarkup (text : String) : Except Markup.ReadError Markup :=
  Markup.readWrapped wrapper (dropDeclaration (Text.trimChars text.toList))

/-- The text that `readMarkup` sees, by which places in it are told. -/
def wrappedText (text : String) : List Char :=
  Markup.wrapped wrapper (dropDeclaration (Text.trimChars text.toList))

/-- The ways in which a text is read as canvases. -/
inductive Reads (text : String) : Except Fault PageList → Prop
  | malformed {e : Markup.ReadError} (h : readMarkup text = .error e) :
      Reads text (.error (.malformed (e.message (wrappedText text))))
  | noCanvas {root : Markup} (h : readMarkup text = .ok root) (hnone : canvases root = []) :
      Reads text (.error .noCanvas)
  | pages {root : Markup} (h : readMarkup text = .ok root) (hsome : canvases root ≠ []) :
      Reads text (.ok (pageList (canvases root)))

theorem reads (text : String) : Reads text (read text) := by
  unfold read
  dsimp only
  split
  · rename_i e h
    exact .malformed h
  · rename_i root h
    by_cases hnone : canvases root = []
    · rw [hnone]
      exact .noCanvas h hnone
    · rw [if_neg (by simpa using hnone)]
      exact .pages h hnone

/-- What becomes of a list of canvases: it is accepted, and its document has the pruned page of each
canvas in its place, under an id and a name. -/
structure Accepted (canvases : List Markup) (list : PageList) (fileKey : String) : Prop where
  checked : checkPageList list.sparseJson pageListRoot = .ok list
  pages : (Ingested.structured fileKey list).document.pages =
    canvases.zipIdx.map fun (m, i) => (pageRecord (i + 1) m).toPage.prune
  titles :
    (Ingested.structured fileKey list).document.pages.map (fun page => (page.id, page.name)) =
    canvases.zipIdx.map fun (m, i) => (pageId (i + 1) m, pageName (i + 1) m)
  count : (Ingested.structured fileKey list).document.pages.length = canvases.length
  titled : ∀ page ∈ (Ingested.structured fileKey list).document.pages,
    page.id ≠ "" ∧ page.name ≠ ""

theorem accepted_pageList (canvases : List Markup) (fileKey : String) :
    Accepted canvases (pageList canvases) fileKey := by
  have hpages : (Ingested.structured fileKey (pageList canvases)).document.pages =
      canvases.zipIdx.map fun (m, i) => (pageRecord (i + 1) m).toPage.prune := by
    change (pageList canvases).pages.map _ = _
    rw [pageList, List.map_map]
    rfl
  refine ⟨PageList.check_sparseJson _ _, hpages, ?_, ?_, ?_⟩
  · rw [hpages, List.map_map]
    rfl
  · rw [hpages, List.length_map, List.length_zipIdx]
  · intro page hp
    rw [hpages] at hp
    obtain ⟨⟨m, i⟩, _, rfl⟩ := List.mem_map.mp hp
    exact ⟨pageId_ne_empty (i + 1) m, pageName_ne_empty (i + 1) m⟩

end Canvas

namespace Payload

open Canvas

/-- The refusal of a text that has no canvases, as a payload as a whole. -/
def unread (label : String) (fault : Fault) : Failure :=
  .payload ("Invalid XML from " ++ label ++ ": " ++ fault.message)

/-- How a text in markup is taken: its pages, or a refusal that says why there are none. -/
inductive Takes (text label fileKey : String) : Except Failure Ingested → Prop
  | malformed {e : Markup.ReadError} (h : readMarkup text = .error e) :
      Takes text label fileKey (.error (unread label (.malformed (e.message (wrappedText text)))))
  | noCanvas {root : Markup} (h : readMarkup text = .ok root) (hnone : canvases root = []) :
      Takes text label fileKey (.error (unread label .noCanvas))
  | pages {root : Markup} {list : Wire.PageList} (h : readMarkup text = .ok root)
      (hsome : canvases root ≠ []) (haccepted : Accepted (canvases root) list fileKey) :
      Takes text label fileKey (.ok (.structured fileKey list))

theorem ingest_of_markup (list : Wire.PageList) (fileKey : String) {hint : FormatHint}
    (hhint : hint ≠ .tree) :
    ingest { data := list.sparseJson, fromMarkup := true } fileKey hint =
      .ok (.structured fileKey list) := by
  have hform : form { data := list.sparseJson, fromMarkup := true } hint = .ok .structured := by
    unfold form
    rw [if_pos rfl, if_neg hhint]
  refine Wire.bind_eq_ok hform ?_
  refine Wire.bind_eq_ok (Wire.PageList.check_sparseJson list pageListRoot) ?_
  rfl

/-- A text that begins like markup goes to the reader of canvases and to nothing else. -/
theorem ingestText_of_isMarkup {text : String} (h : isMarkup (Text.trimChars text.toList) = true)
    (label fileKey : String) {hint : FormatHint} (hhint : hint ≠ .tree) :
    ingestText text label fileKey hint = match Canvas.read text with
      | .ok list => .ok (.structured fileKey list)
      | .error fault => .error (unread label fault) := by
  have hsome : (Text.trimChars text.toList).isEmpty = false := by
    cases hchars : Text.trimChars text.toList with
    | nil =>
      rw [hchars] at h
      cases h
    | cons c rest => rfl
  have hread : Payload.read text label hint = match Canvas.read text with
      | .ok list => .ok { data := list.sparseJson, fromMarkup := true }
      | .error fault => .error (unread label fault) := by
    rw [Payload.read]
    simp only [hsome, h, hhint, Bool.false_eq_true, if_false, if_true]
    cases Canvas.read text <;> rfl
  have hlone : standIns text = {} := if_pos h
  rw [ingestText, hread, hlone]
  cases Canvas.read text with
  | error e => rfl
  | ok list => exact ingest_of_markup list fileKey hhint

/-- Canvases that are read are accepted, with a page for each of them in order; and a text in markup
that is not meant as a tree is refused only as malformed or for want of a canvas. -/
theorem markup_accepted (text : String) :
    (∀ list fileKey, Canvas.read text = .ok list →
      ∃ root, readMarkup text = .ok root ∧ canvases root ≠ [] ∧
        Accepted (canvases root) list fileKey) ∧
    ∀ label fileKey hint, isMarkup (Text.trimChars text.toList) = true → hint ≠ FormatHint.tree →
      Takes text label fileKey (ingestText text label fileKey hint) := by
  constructor
  · intro list fileKey hlist
    have hreads := Canvas.reads text
    rw [hlist] at hreads
    cases hreads with
    | pages h hsome => exact ⟨_, h, hsome, accepted_pageList _ fileKey⟩
  · intro label fileKey hint hmarkup hhint
    rw [ingestText_of_isMarkup hmarkup label fileKey hhint]
    have hreads := Canvas.reads text
    generalize Canvas.read text = result at hreads
    cases hreads with
    | malformed h =>
      change Takes text label fileKey (.error (unread label _))
      exact .malformed h
    | noCanvas h hnone =>
      change Takes text label fileKey (.error (unread label .noCanvas))
      exact .noCanvas h hnone
    | pages h hsome => exact .pages h hsome (accepted_pageList _ fileKey)

/-- Two canvases, without ids and names, and a sticky note that has no id and no text. -/
def looseMarkup : String := "<canvas name=\"\"><sticky/></canvas><canvas/>"

theorem looseMarkup_accepted :
    isMarkup (Text.trimChars looseMarkup.toList) = true ∧ FormatHint.auto ≠ .tree ∧
      Takes looseMarkup "stdin" "key" (ingestText looseMarkup "stdin" "key" .auto) ∧
      ∃ list root, Canvas.read looseMarkup = .ok list ∧ list.pages.length = 2 ∧
        readMarkup looseMarkup = .ok root ∧ Accepted (canvases root) list "key" := by
  have hmarkup : isMarkup (Text.trimChars looseMarkup.toList) = true := by decide +kernel
  have hcount :
      ((Canvas.read looseMarkup).toOption.map fun list => list.pages.length) = some 2 := by
    decide +kernel
  obtain ⟨list, hlist, hlength⟩ := Option.map_eq_some_iff.mp hcount
  have hread : Canvas.read looseMarkup = .ok list := by
    cases h : Canvas.read looseMarkup with
    | error e =>
      rw [h] at hlist
      cases hlist
    | ok other =>
      rw [h] at hlist
      rw [Option.some.inj hlist]
  obtain ⟨haccepted, htakes⟩ := markup_accepted looseMarkup
  obtain ⟨root, hroot, _, hpages⟩ := haccepted list "key" hread
  exact ⟨hmarkup, nofun, htakes "stdin" "key" .auto hmarkup nofun, list, root, hread, hlength,
    hroot, hpages⟩

end Payload

end FlowBoard
