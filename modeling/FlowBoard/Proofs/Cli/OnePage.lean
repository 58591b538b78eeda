import FlowBoard.Proofs.Cli.Endings
import FlowBoard.Proofs.Graph.Saved
import FlowBoard.Proofs.Ingestion.Canonical
import FlowBoard.Proofs.Mermaid.Contained
import FlowBoard.Proofs.Wire.Grammar

/-!
# The outputs of one page

The text of a page is finished in four ways: printed, written as it is, written in a fenced block,
or left to whoever renders the stored page again. All of them give the same text, as a flowchart
never ends with a blank and a stored page keeps all that is rendered. But a flowchart with half of a
surrogate pair has no code: of these ways only the last, which escapes it, succeeds then.
-/

namespace FlowBoard

/-! ## Fenced blocks -/

namespace Text

variable {sep : Char}

theorem splitOn_ne_nil (sep : Char) (cs : List Char) : splitOn sep cs ≠ [] := by
  fun_cases splitOn sep cs <;> simp

theorem splitOn_append (sep : Char) (cs ds : List Char) :
    splitOn sep (cs ++ sep :: ds) = splitOn sep cs ++ splitOn sep ds := by
  induction cs with
  | nil => simp [splitOn]
  | cons c rest ih =>
    rw [List.cons_append, splitOn, splitOn, ih]
    split_ifs with hc
    · rfl
    · cases hrest : splitOn sep rest with
      | nil => exact absurd hrest (splitOn_ne_nil sep rest)
      | cons part parts => rfl

/-- Every part with the separator after it. -/
theorem flatMap_splitOn (sep : Char) (cs : List Char) :
    (splitOn sep cs).flatMap (· ++ [sep]) = cs ++ [sep] := by
  induction cs with
  | nil => rfl
  | cons c rest ih =>
    rw [splitOn]
    split_ifs with hc
    · rw [List.flatMap_cons, ih, hc]
      rfl
    · cases hrest : splitOn sep rest with
      | nil => exact absurd hrest (splitOn_ne_nil sep rest)
      | cons part parts =>
        rw [hrest, List.flatMap_cons] at ih
        rw [List.flatMap_cons, List.cons_append, List.cons_append, ih, List.cons_append]

theorem mem_of_mem_splitOn {c : Char} {cs part : List Char} (hpart : part ∈ splitOn sep cs)
    (hc : c ∈ part) : c ∈ cs ∨ c = sep := by
  have hmem : c ∈ (splitOn sep cs).flatMap (· ++ [sep]) :=
    List.mem_flatMap.mpr ⟨part, hpart, List.mem_append_left _ hc⟩
  rw [flatMap_splitOn, List.mem_append, List.mem_singleton] at hmem
  exact hmem

end Text

namespace Mermaid

/-- The lines between the first one and the closing fence, with their ends. -/
def fencedText (s : String) : String :=
  String.ofList ((((Text.splitOn '\n' s.toList).drop 1).takeWhile (· != fence.toList)).flatMap
    (· ++ ['\n']))

theorem fencedText_block {text : String} (hend : EndsSolid text) (hfence : backtick ∉ text.toList) :
    fencedText (block text) = text ++ "\n" := by
  have hchars : (block text).toList = (fence ++ "mermaid").toList ++
      '\n' :: (text.toList ++ '\n' :: (fence.toList ++ '\n' :: [])) := by
    rw [Page.Mermaid.block_of_endsSolid hend]
    simp [String.toList_append]
  have hopening :
      Text.splitOn '\n' (fence ++ "mermaid").toList = [(fence ++ "mermaid").toList] := by
    decide
  have hclosing : Text.splitOn '\n' fence.toList = [fence.toList] := by decide
  have hinside : ∀ part ∈ Text.splitOn '\n' text.toList, (part != fence.toList) = true := by
    intro part hpart
    rw [bne_iff_ne]
    rintro rfl
    rcases Text.mem_of_mem_splitOn hpart (show backtick ∈ fence.toList by decide) with h | h
    · exact hfence h
    · exact absurd h (by decide)
  have hlines : Text.splitOn '\n' (block text).toList =
      (fence ++ "mermaid").toList :: (Text.splitOn '\n' text.toList ++ [fence.toList, []]) := by
    rw [hchars, Text.splitOn_append, Text.splitOn_append, Text.splitOn_append, hopening, hclosing]
    rfl
  have hkept : (Text.splitOn '\n' text.toList ++ [fence.toList, []]).takeWhile
      (· != fence.toList) = Text.splitOn '\n' text.toList := by
    rw [List.takeWhile_append_of_pos hinside, List.takeWhile_cons_of_neg (by simp), List.append_nil]
  rw [fencedText, hlines, List.drop_one, List.tail_cons, hkept, Text.flatMap_splitOn,
    ← String.toList_inj, String.toList_ofList, String.toList_append]
  rfl

end Mermaid

/-! ## Rendered pages -/

theorem exists_of_mem_mapM {α β ε : Type} {f : α → Except ε β} {items : List α} {results : List β}
    (h : items.mapM f = .ok results) {b : β} (hb : b ∈ results) : ∃ a ∈ items, f a = .ok b := by
  induction items generalizing results with
  | nil =>
    rw [List.mapM_nil] at h
    cases h
    cases hb
  | cons a rest ih =>
    rw [List.mapM_cons] at h
    obtain ⟨b', hb', h⟩ := Wire.bind_eq_ok_iff.mp h
    obtain ⟨results', hresults', h⟩ := Wire.bind_eq_ok_iff.mp h
    cases h
    rcases List.mem_cons.mp hb with rfl | hb
    · exact ⟨a, List.mem_cons_self, hb'⟩
    · obtain ⟨a', ha', hf⟩ := ih hresults' hb
      exact ⟨a', List.mem_cons_of_mem _ ha', hf⟩

theorem Document.of_mem_render {doc : Document} {direction : Option String} {layout : String}
    {pages : List RenderedPage} {r : RenderedPage} (h : doc.render direction layout = .ok pages)
    (hr : r ∈ pages) : r.page ∈ doc.pages ∧ r.page.mermaid? direction = some r.mermaid := by
  obtain ⟨page, hpage, hrender⟩ := exists_of_mem_mapM h hr
  rw [Page.render, Page.mermaid] at hrender
  cases htext : page.mermaid? direction with
  | none =>
    rw [htext] at hrender
    cases hrender
  | some text =>
    rw [htext] at hrender
    obtain rfl := Except.ok.inj hrender
    exact ⟨hpage, htext⟩

/-- The stored form of an ingested page is readable. -/
theorem Ingested.readable_page {i : Ingested} {page : Page} (h : page ∈ i.document.pages)
    (doc : Document) : Document.Readable { doc with pages := [page] } := by
  obtain ⟨raw, hraw, rfl⟩ := exists_checked h
  have hchecked := Page.checked_prune hraw
  intro page' hpage' node hnode
  obtain rfl := List.mem_singleton.mp hpage'
  constructor
  · intro n hn
    obtain ⟨x, rfl⟩ := hchecked.finite node hnode n (.inl hn)
    trivial
  · intro n hn
    obtain ⟨x, rfl⟩ := hchecked.finite node hnode n (.inr hn)
    trivial

namespace Cli

open Run (writeText note NeverOwn)

variable {a b : Arguments} {m m₁ m' : Machine} {result : PipelineResult} {r : RenderedPage}
  {lone : Text.StandIns} {path s text : String}

/-- The pages of a document that was taken are those of an ingested one, rendered. -/
theorem exists_ingested (h : takeDocument a m = (.ok result, m₁)) :
    ∃ i : Ingested,
      i.document.render (a.direction.map Direction.name) a.layout = .ok result.pages := by
  simp only [takeDocument, Pipeline.run, Run.bind_eq_ok_iff, Run.ofExcept_eq_ok_iff] at h
  obtain ⟨_, _, _, _, _, _, selection?, _, _, hselected, _⟩ := h
  obtain ⟨selection, _, hfinish⟩ := Wire.bind_eq_ok_iff.mp hselected
  rw [Pipeline.finish] at hfinish
  obtain ⟨pages, hpages, hresult⟩ := Wire.bind_eq_ok_iff.mp hfinish
  cases hresult
  exact ⟨selection.ingested, hpages⟩

theorem mem_of_byNumber {pages : List RenderedPage} {index : Int}
    (h : PageChoice.byNumber pages index = .ok r) : r ∈ pages := by
  rw [PageChoice.byNumber] at h
  split at h
  · next hpage =>
    obtain rfl := Except.ok.inj h
    split_ifs at hpage
    exact List.mem_of_getElem? hpage
  · cases h

theorem mem_of_byName {pages : List RenderedPage} {name : RenderedPage → String} {wanted : String}
    (h : PageChoice.byName name pages wanted = .ok r) : r ∈ pages := by
  rw [PageChoice.byName] at h
  split at h
  · next hpage =>
    obtain rfl := Except.ok.inj h
    exact List.mem_of_find?_eq_some hpage
  · cases h

/-- The pages that are chosen are pages of the document. -/
theorem mem_of_select {pages chosen : List RenderedPage} {name : RenderedPage → String}
    {selector : Option String} (h : PageChoice.select name pages selector = .ok chosen)
    (hr : r ∈ chosen) : r ∈ pages := by
  rw [PageChoice.select] at h
  split at h
  · exact Except.ok.inj h ▸ hr
  · next wanted _ =>
    cases hone : PageChoice.one name pages wanted with
    | error e =>
      rw [hone] at h
      cases h
    | ok r' =>
      rw [hone] at h
      obtain rfl := Except.ok.inj h
      obtain rfl := List.mem_singleton.mp hr
      rw [PageChoice.one] at hone
      split_ifs at hone
      · obtain ⟨index, _, hnumber⟩ := Wire.bind_eq_ok_iff.mp hone
        exact mem_of_byNumber hnumber
      · exact mem_of_byName hone

/-! ## Strings with a code -/

/-- No half of a surrogate pair stands in the string. -/
def IsWhole (lone : Text.StandIns) (s : String) : Prop := ∀ c ∈ s.toList, lone.isStandIn c = false

theorem isWhole_empty (s : String) : IsWhole {} s := fun c _ => Text.StandIns.isStandIn_empty c

theorem isWhole_of_ascii (lone : Text.StandIns)
    (h : s.toList.all (fun c => c.toNat < 0x80) = true) : IsWhole lone s := by
  intro c hc
  have hlow : c.toNat < 0x80 := by simpa using List.all_eq_true.mp h c hc
  exact Text.StandIns.isStandIn_of_lt (by omega) lone

theorem isWhole_append {t : String} :
    IsWhole lone (s ++ t) ↔ IsWhole lone s ∧ IsWhole lone t := by
  rw [IsWhole, String.toList_append, List.forall_mem_append]
  rfl

theorem dropLineFeeds_of_endsSolid {cs : List Char} (h : Text.endsSolid cs = true) :
    dropLineFeeds cs = cs := by
  cases hcs : cs.reverse with
  | nil => rw [dropLineFeeds, hcs, List.dropWhile_nil, ← hcs, List.reverse_reverse]
  | cons c rest =>
    have hlast : cs.getLast? = some c := by rw [← List.head?_reverse, hcs, List.head?_cons]
    have hc : ¬c = '\n' := by
      rintro rfl
      rw [Text.endsSolid, hlast] at h
      exact absurd h (by decide)
    rw [dropLineFeeds, hcs, List.dropWhile_cons_of_neg (by simpa using hc), ← hcs,
      List.reverse_reverse]

theorem fileText_of_endsSolid (h : Mermaid.EndsSolid text) :
    fileText false text = text ++ "\n" := by
  rw [fileText, if_neg Bool.false_ne_true, Text.onChars, dropLineFeeds_of_endsSolid h,
    String.ofList_toList]

theorem isWhole_line : IsWhole lone (text ++ "\n") ↔ IsWhole lone text := by
  rw [isWhole_append, and_iff_left (isWhole_of_ascii lone (by decide))]

/-- What a flowchart is finished with is whole. -/
theorem isWhole_fileText (hend : Mermaid.EndsSolid text) (markdown : Bool) :
    IsWhole lone (fileText markdown text) ↔ IsWhole lone text := by
  cases markdown with
  | false => rw [fileText_of_endsSolid hend, isWhole_line]
  | true =>
    have hopening : IsWhole lone (Mermaid.fence ++ "mermaid\n") :=
      isWhole_of_ascii lone (by decide)
    have hfence : IsWhole lone Mermaid.fence := isWhole_of_ascii lone (by decide)
    rw [fileText, if_pos rfl, Page.Mermaid.block_of_endsSolid hend, isWhole_line, isWhole_append,
      isWhole_line, isWhole_append, and_iff_left hfence, and_iff_right hopening]

/-! ## Writing -/

/-- A text is written and the user is told where. -/
def writeNoted (lone : Text.StandIns) (path s : String) : Run Unit := do
  Run.writeCoded lone (Path.ofString path) s
  note ("Written to " ++ path)

theorem of_writeNoted (h : writeNoted lone path s m = (.ok (), m')) :
    IsWhole lone s ∧ m'.files.contents (Path.ofString path) = .ok (.text s) := by
  simp only [writeNoted, writeText, Run.bind_eq_ok_iff, Run.get_eq_ok_iff, Run.ofExcept_eq_ok_iff,
    Run.modify_eq_ok_iff, Run.note_eq_ok_iff, Run.writeCoded_eq_ok_iff] at h
  obtain ⟨_, _, ⟨hwhole, _, _, ⟨rfl, rfl⟩, files, _, ⟨-, rfl⟩, _, _, rfl, files', _,
    ⟨hwrite, rfl⟩, rfl⟩, rfl⟩ := h
  exact ⟨hwhole, FileSystem.contents_of_writeText hwrite⟩

theorem writeNoted_of_takes (hwhole : IsWhole lone s) (hname : IsFileName path)
    (htakes : m.files.Takes path) : ∃ m', writeNoted lone path s m = (.ok (), m') := by
  rw [writeNoted, Run.writeCoded_of_plain hwhole]
  exact ⟨_, (Run.bind_of_ok ((Run.writeText_eq_ok_iff hname).mpr ⟨htakes, rfl⟩) _).trans rfl⟩

/-! ## Runs for one page -/

/-- The machine after the user was told about the only page. -/
def told (result : PipelineResult) (r : RenderedPage) (m : Machine) : Machine :=
  announced result.standIns [r] (if result.fallbackUsed then m.noted fallbackNote else m)

theorem exportResult_one
    (hone : PageChoice.select (fun r : RenderedPage => r.page.name) result.pages a.page = .ok [r]) :
    exportResult a result m =
      exportDocument a result.standIns result.document [r] (told result r m) := by
  have hchosen : ∀ m₀ : Machine,
      (Run.ofExcept (.ok [r]) >>= exportChosen a result.standIns result.document) m₀ =
        exportDocument a result.standIns result.document [r]
          (announced result.standIns [r] m₀) := fun _ => rfl
  have hchoice : choosePages result a.page = .ok [r] := by
    rw [choosePages, hone]
    rfl
  rw [exportResult, hchoice, told]
  split_ifs with hfallback
  · rw [Run.bind_of_ok (Run.note_eq_ok_iff (u := ()).mpr rfl)]
    exact hchosen _
  · exact hchosen m

theorem run_one (hforms : ¬1 < a.formFlags.count true) (hdirect : direct? a m = (.ok none, m))
    (htaken : takeDocument a m = (.ok result, m₁))
    (hone : PageChoice.select (fun r : RenderedPage => r.page.name) result.pages a.page = .ok [r]) :
    run a m = exportDocument a result.standIns result.document [r] (told result r m₁) := by
  rw [run, if_neg hforms]
  refine (Run.bind_of_ok hdirect _).trans ?_
  change exportFrom a (a.source.getD defaultMode) m = _
  rw [exportFrom_eq, Run.bind_of_ok htaken, exportResult_one hone]

/-- Up to the export nothing is written but notes. -/
theorem output_told_of_taken (htaken : takeDocument a m = (.ok result, m₁)) (r : RenderedPage) :
    (told result r m₁).output = m.output := by
  have hkept : m₁.effects = m.effects := by simpa only [htaken] using keeps_takeDocument a m
  have houtput : m₁.output = m.output := congrArg Prod.fst hkept
  rw [told, ← houtput]
  split_ifs <;> rfl

variable {d : Document}

theorem Arguments.outputPath?_of_output (houtput : a.output = some path) (hpath : path ≠ "") :
    a.outputPath? = some path := by
  simp [Arguments.outputPath?, houtput, hpath]

theorem exportDocument_plain (hjson : a.json = false) (hfile : a.wantsFile = false) :
    exportDocument a lone d [r] = Run.printCoded lone (r.mermaid ++ "\n") := by
  simp only [exportDocument, hjson, Bool.false_eq_true, if_false, exportPage, hfile]

theorem exportDocument_file {markdown : Bool} (hmarkdown : a.markdown = markdown)
    (hjson : a.json = false) (hpng : a.png = false) (hsvg : a.svg = false)
    (hfile : a.outputPath?.isSome = true ∨ markdown = true)
    (hpath : a.outputPath?.getD (pagePath a d r) = path) :
    exportDocument a lone d [r] = writeNoted lone path (fileText markdown r.mermaid) := by
  have himage : a.imageFormat? = none := by simp [Arguments.imageFormat?, hpng, hsvg]
  have hwants : a.wantsFile = true := by
    rcases hfile with h | h <;> simp [Arguments.wantsFile, hmarkdown, h]
  simp only [exportDocument, hjson, Bool.false_eq_true, if_false, exportPage, hwants, if_true,
    writeFlowchart, himage, writeNoted, hpath, hmarkdown]

/-- What the document with only that page is stored as. -/
def storedText (d : Document) (r : RenderedPage) (lone : Text.StandIns := {}) : String :=
  StoredDocument.fileText (Document.stored { d with pages := [r.page] }) lone

theorem exportDocument_stored (hjson : a.json = true) :
    exportDocument a lone d [r] = match a.outputPath? with
      | some path => writeNoted {} path (storedText d r lone)
      | none => Run.printCoded {} (storedText d r lone) := by
  rw [exportDocument, if_pos hjson, exportJson]
  simp only [writeNoted, Run.writeCoded_of_plain (isWhole_empty _),
    Run.printCoded_of_plain (isWhole_empty _)]
  rfl

/-! ## The same text -/

/-- No form of output is asked for. -/
structure Arguments.IsPlain (a : Arguments) : Prop where
  noOutput : a.outputPath? = none
  noMarkdown : a.markdown = false
  noPng : a.png = false
  noSvg : a.svg = false
  noJson : a.json = false

/-- The run succeeds and adds such a text to standard output. -/
def Prints (words : List String) (m : Machine) (holds : String → Prop) : Prop :=
  ∃ m' s, main words m = (.code 0, m') ∧ m'.stdout = m.stdout ++ s ∧ holds s

/-- The run leaves such a text at the path if it succeeds, as it does when the path is a name in
the working directory that a file can have. -/
structure Writes (words : List String) (m : Machine) (path : String) (holds : String → Prop) :
    Prop where
  ends : IsFileName path → m.files.Takes path → ∃ m', main words m = (.code 0, m')
  stands : ∀ m', main words m = (.code 0, m') →
    ∃ s, m'.files.contents (Path.ofString path) = .ok (.text s) ∧ holds s

/-- The text is that of a document with one page, of which this is the flowchart; it is read
without stand-ins. -/
def RendersAgain (direction : Option Direction) (flowchart s : String) : Prop :=
  Json.standIns s.toList = {} ∧ ∃ stored doc page, StoredDocument.read s = .ok stored ∧
    stored.typed? = some doc ∧ doc.pages = [page] ∧
    page.mermaid? (direction.map Direction.name) = some flowchart

/-- All texts of a page come to the flowchart with one line feed at its end. -/
structure TextsAgree (a : Arguments) (m : Machine) (d : Document) (r : RenderedPage) : Prop where
  printed : ∀ words, Arguments.parse words = .ok a →
    Prints words m (· = r.mermaid ++ "\n")
  written : ∀ words path, path ≠ "" →
    Arguments.parse words = .ok { a with output := some path } →
    Writes words m path (· = r.mermaid ++ "\n")
  fenced : ∀ words, Arguments.parse words = .ok { a with markdown := true } →
    Writes words m (pagePath { a with markdown := true } d r)
      (Mermaid.fencedText · = r.mermaid ++ "\n")
  fencedAt : ∀ words path, path ≠ "" →
    Arguments.parse words = .ok { a with markdown := true, output := some path } →
    Writes words m path (Mermaid.fencedText · = r.mermaid ++ "\n")

/-- No text of a page can be had. -/
structure TextsEscape (a : Arguments) (m : Machine) : Prop where
  printed : ∀ words, Arguments.parse words = .ok a → Escapes words m
  written : ∀ words path, path ≠ "" →
    Arguments.parse words = .ok { a with output := some path } → Escapes words m
  fenced : ∀ words, Arguments.parse words = .ok { a with markdown := true } → Escapes words m
  fencedAt : ∀ words path, path ≠ "" →
    Arguments.parse words = .ok { a with markdown := true, output := some path } →
    Escapes words m

/-- The stored page is such a text. -/
structure StoredAs (a : Arguments) (m : Machine) (holds : String → Prop) : Prop where
  printed : ∀ words, Arguments.parse words = .ok { a with json := true } → Prints words m holds
  written : ∀ words path, path ≠ "" →
    Arguments.parse words = .ok { a with json := true, output := some path } →
    Writes words m path holds

section Runs

variable {words : List String} {holds : String → Prop} (hwords : Arguments.parse words = .ok a)
  (hforms : ¬1 < a.formFlags.count true) (hdirect : direct? a m = (.ok none, m))
  (htaken : takeDocument a m = (.ok result, m₁))
  (hone : PageChoice.select (fun r : RenderedPage => r.page.name) result.pages a.page = .ok [r])

include hwords hforms hdirect htaken hone

theorem prints_of_export
    (hexport : exportDocument a result.standIns result.document [r] = Run.printCoded lone s)
    (hwhole : IsWhole lone s) (hs : holds s) : Prints words m holds := by
  have hrun := run_one hforms hdirect htaken hone
  rw [hexport, Run.printCoded_of_plain hwhole] at hrun
  have hstdout : (told result r m₁).stdout = m.stdout :=
    congrArg Prod.snd (output_told_of_taken htaken r)
  refine ⟨_, s, (main_eq_zero_iff hwords).mpr hrun, ?_, hs⟩
  change (told result r m₁).stdout ++ s = _
  rw [hstdout]

theorem writes_of_export
    (hexport : exportDocument a result.standIns result.document [r] = writeNoted lone path s)
    (hwhole : IsWhole lone s) (hs : holds s) : Writes words m path holds := by
  have hrun := run_one hforms hdirect htaken hone
  rw [hexport] at hrun
  have hfiles : (told result r m₁).files = m.files :=
    congrArg Prod.fst (output_told_of_taken htaken r)
  refine ⟨fun hname htakes => ?_, fun m' hends => ⟨s, ?_, hs⟩⟩
  · obtain ⟨m', hwritten⟩ := writeNoted_of_takes hwhole hname (hfiles.symm ▸ htakes)
    exact ⟨m', (main_eq_zero_iff hwords).mpr (hrun.trans hwritten)⟩
  · exact (of_writeNoted (hrun.symm.trans ((main_eq_zero_iff hwords).mp hends))).2

/-- An export that neither succeeds nor fails with a failure of the program's own. -/
theorem escapes_of_export
    (hnever : NeverOwn (exportDocument a result.standIns result.document [r]))
    (hno : ∀ m m', exportDocument a result.standIns result.document [r] m ≠ (.ok (), m')) :
    Escapes words m := by
  have hown := hnever (told result r m₁)
  rcases hexport : exportDocument a result.standIns result.document [r] (told result r m₁) with
    ⟨e | _, m'⟩
  · rw [hexport] at hown
    have hrun := (run_one hforms hdirect htaken hone).trans hexport
    exact ⟨e, m', main_of_foreign hwords hrun hown⟩
  · exact absurd hexport (hno _ _)

theorem escapes_of_print
    (hexport : exportDocument a result.standIns result.document [r] = Run.printCoded lone s)
    (hhalf : ¬IsWhole lone s) : Escapes words m := by
  refine escapes_of_export hwords hforms hdirect htaken hone ?_ fun m m' h => ?_
  · rw [hexport]
    exact Run.neverOwn_printCoded lone s
  · rw [hexport] at h
    exact hhalf (Run.printCoded_eq_ok_iff.mp h).1

theorem escapes_of_write
    (hexport : exportDocument a result.standIns result.document [r] = writeNoted lone path s)
    (hhalf : ¬IsWhole lone s) : Escapes words m := by
  refine escapes_of_export hwords hforms hdirect htaken hone ?_ fun m m' h => ?_
  · rw [hexport]
    exact (Run.neverOwn_writeCoded _ _ _).bind fun _ => Run.neverOwn_note _
  · rw [hexport] at h
    exact hhalf (of_writeNoted h).1

end Runs

/-! ## The texts of a page -/

section Texts

variable (hplain : a.IsPlain) (lone : Text.StandIns) (d : Document) (r : RenderedPage)
include hplain

namespace Arguments.IsPlain

theorem export_printed :
    exportDocument a lone d [r] = Run.printCoded lone (r.mermaid ++ "\n") := by
  obtain ⟨noOutput, noMarkdown, noPng, noSvg, noJson⟩ := hplain
  exact exportDocument_plain noJson
    (by simp [Arguments.wantsFile, noOutput, noMarkdown, noPng, noSvg])

theorem export_written (hpath : path ≠ "") :
    exportDocument { a with output := some path } lone d [r] =
      writeNoted lone path (fileText false r.mermaid) := by
  have hout := Arguments.outputPath?_of_output (a := { a with output := some path }) rfl hpath
  refine exportDocument_file hplain.noMarkdown hplain.noJson hplain.noPng hplain.noSvg ?_ ?_
  · exact .inl (by rw [hout, Option.isSome_some])
  · rw [hout, Option.getD_some]

theorem export_fenced :
    exportDocument { a with markdown := true } lone d [r] =
      writeNoted lone (pagePath { a with markdown := true } d r) (fileText true r.mermaid) := by
  have hnone : Arguments.outputPath? { a with markdown := true } = none := hplain.noOutput
  refine exportDocument_file rfl hplain.noJson hplain.noPng hplain.noSvg (.inr rfl) ?_
  rw [hnone, Option.getD_none]

theorem export_fencedAt (hpath : path ≠ "") :
    exportDocument { a with markdown := true, output := some path } lone d [r] =
      writeNoted lone path (fileText true r.mermaid) := by
  refine exportDocument_file rfl hplain.noJson hplain.noPng hplain.noSvg (.inr rfl) ?_
  rw [Arguments.outputPath?_of_output rfl hpath, Option.getD_some]

end Arguments.IsPlain

end Texts

theorem Arguments.not_one_lt_forms (hpng : a.png = false) (hsvg : a.svg = false)
    (h : a.markdown = false ∨ a.json = false) : ¬1 < a.formFlags.count true := by
  rw [formFlags, hpng, hsvg]
  rcases h with h | h
  · rw [h]
    cases a.json <;> decide
  · rw [h]
    cases a.markdown <;> decide

theorem rendersAgain_storedText {i : Ingested} {direction : Option Direction}
    (hpage : r.page ∈ i.document.pages)
    (htext : r.page.mermaid? (direction.map Direction.name) = some r.mermaid) (d : Document) :
    RendersAgain direction r.mermaid (storedText d r) :=
  have hreadable := Ingested.readable_page hpage d
  ⟨hreadable.standIns_fileText, _, _, r.page, hreadable.read_fileText, Document.typed?_stored _,
    rfl, htext⟩

section Taken

variable (hplain : a.IsPlain) (hdirect : direct? a m = (.ok none, m))
  (htaken : takeDocument a m = (.ok result, m₁))
  (hone : PageChoice.select (fun r : RenderedPage => r.page.name) result.pages a.page = .ok [r])
include hplain hdirect htaken hone

theorem textsAgree_of_isWhole (hend : Mermaid.EndsSolid r.mermaid)
    (hfence : Mermaid.backtick ∉ r.mermaid.toList) (hwhole : IsWhole result.standIns r.mermaid) :
    TextsAgree a m result.document r := by
  have hline : IsWhole result.standIns (fileText false r.mermaid) :=
    (isWhole_fileText hend false).mpr hwhole
  have hblock : IsWhole result.standIns (fileText true r.mermaid) :=
    (isWhole_fileText hend true).mpr hwhole
  have hfenced := Mermaid.fencedText_block hend hfence
  have hforms := Arguments.not_one_lt_forms hplain.noPng hplain.noSvg (.inr hplain.noJson)
  have hforms' := Arguments.not_one_lt_forms (a := { a with markdown := true }) hplain.noPng
    hplain.noSvg (.inr hplain.noJson)
  constructor
  case printed =>
    exact fun words hwords => prints_of_export hwords hforms hdirect htaken hone
      (hplain.export_printed _ _ r) (isWhole_line.mpr hwhole) rfl
  case written =>
    exact fun words path hpath hwords => writes_of_export hwords hforms hdirect htaken hone
      (hplain.export_written _ _ r hpath) hline (fileText_of_endsSolid hend)
  case fenced =>
    exact fun words hwords => writes_of_export hwords hforms' hdirect htaken hone
      (hplain.export_fenced _ _ r) hblock hfenced
  case fencedAt =>
    exact fun words path hpath hwords => writes_of_export hwords hforms' hdirect htaken hone
      (hplain.export_fencedAt _ _ r hpath) hblock hfenced

theorem textsEscape_of_not_isWhole (hend : Mermaid.EndsSolid r.mermaid)
    (hhalf : ¬IsWhole result.standIns r.mermaid) : TextsEscape a m := by
  have hline : ¬IsWhole result.standIns (fileText false r.mermaid) :=
    fun h => hhalf ((isWhole_fileText hend false).mp h)
  have hblock : ¬IsWhole result.standIns (fileText true r.mermaid) :=
    fun h => hhalf ((isWhole_fileText hend true).mp h)
  have hforms := Arguments.not_one_lt_forms hplain.noPng hplain.noSvg (.inr hplain.noJson)
  have hforms' := Arguments.not_one_lt_forms (a := { a with markdown := true }) hplain.noPng
    hplain.noSvg (.inr hplain.noJson)
  constructor
  case printed =>
    exact fun words hwords => escapes_of_print hwords hforms hdirect htaken hone
      (hplain.export_printed _ _ r) fun h => hhalf (isWhole_line.mp h)
  case written =>
    exact fun words path hpath hwords => escapes_of_write hwords hforms hdirect htaken hone
      (hplain.export_written _ _ r hpath) hline
  case fenced =>
    exact fun words hwords => escapes_of_write hwords hforms' hdirect htaken hone
      (hplain.export_fenced _ _ r) hblock
  case fencedAt =>
    exact fun words path hpath hwords => escapes_of_write hwords hforms' hdirect htaken hone
      (hplain.export_fencedAt _ _ r hpath) hblock

theorem storedAs_storedText {holds : String → Prop}
    (hholds : holds (storedText result.document r result.standIns)) : StoredAs a m holds := by
  have hforms := Arguments.not_one_lt_forms (a := { a with json := true }) hplain.noPng
    hplain.noSvg (.inl hplain.noMarkdown)
  constructor
  case printed =>
    have hnone : Arguments.outputPath? { a with json := true } = none := hplain.noOutput
    have hexport : exportDocument { a with json := true } result.standIns result.document [r] =
        Run.printCoded {} (storedText result.document r result.standIns) := by
      rw [exportDocument_stored rfl, hnone]
    exact fun words hwords =>
      prints_of_export hwords hforms hdirect htaken hone hexport (isWhole_empty _) hholds
  case written =>
    intro words path hpath hwords
    have hexport : exportDocument { a with json := true, output := some path } result.standIns
        result.document [r] =
          writeNoted {} path (storedText result.document r result.standIns) := by
      rw [exportDocument_stored rfl, Arguments.outputPath?_of_output rfl hpath]
    exact writes_of_export hwords hforms hdirect htaken hone hexport (isWhole_empty _) hholds

end Taken

/-- The flowchart of a page that was taken is that of a page of an ingested document. -/
theorem exists_flowchart (htaken : takeDocument a m = (.ok result, m₁))
    (hone : PageChoice.select (fun r : RenderedPage => r.page.name) result.pages a.page = .ok [r]) :
    ∃ (i : Ingested) (direction : Direction), r.page ∈ i.document.pages ∧
      r.page.mermaid? (a.direction.map Direction.name) = some r.mermaid ∧
      r.mermaid = r.page.flowchart direction.name := by
  obtain ⟨i, hrender⟩ := exists_ingested htaken
  obtain ⟨hpage, htext⟩ :=
    Document.of_mem_render hrender (mem_of_select hone (List.mem_singleton.mpr rfl))
  obtain ⟨word, hword, hflowchart⟩ := Option.map_eq_some_iff.mp htext
  obtain ⟨direction, rfl⟩ := Page.exists_direction_of_direction? hword
  exact ⟨i, direction, hpage, htext, hflowchart.symm⟩

/-- A canvas with one note on standard input. -/
def noteMachine : Machine :=
  { stdin := some "<canvas><sticky id='n'>A</sticky></canvas>" }

def noteArguments : Arguments := { source := some .stdin, direction := some .lr }

def givesOnePage (test : PipelineResult → Bool) : Except Failure PipelineResult × Machine → Bool
  | (.ok result, _) => result.pages.length == 1 && test result
  | (.error _, _) => false

theorem exists_onePage (test : PipelineResult → Bool) (hpage : a.page = none)
    (hgives : givesOnePage test (takeDocument a m) = true) :
    ∃ result r m₁, takeDocument a m = (.ok result, m₁) ∧ test result = true ∧
      PageChoice.select (fun r : RenderedPage => r.page.name) result.pages a.page = .ok [r] := by
  rcases htaken : takeDocument a m with ⟨e | result, m₁⟩
  · rw [htaken] at hgives
    exact absurd hgives Bool.false_ne_true
  · rw [htaken, givesOnePage, Bool.and_eq_true] at hgives
    obtain ⟨r, hpages⟩ := List.length_eq_one_iff.mp (eq_of_beq hgives.1)
    exact ⟨result, r, m₁, rfl, hgives.2, by rw [hpage, hpages]; rfl⟩

/-- A page with half of a surrogate pair for a label. -/
def halfText : String :=
  "\x7b\"pages\": [\x7b\"pageId\": \"1\", \"pageName\": \"A\", \"diagram\": \x7b\"nodes\": " ++
    "[\x7b\"sourceId\": \"n\", \"label\": \"\\ud800\"\x7d], \"edges\": [], " ++
    "\"sections\": [], \"stickyNotes\": []\x7d\x7d]\x7d"

def halfMachine : Machine := { stdin := some halfText }

def halfArguments : Arguments := { source := some .stdin, format := .structured }

end Cli

end FlowBoard
