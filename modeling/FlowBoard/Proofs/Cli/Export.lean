import FlowBoard.Cli.Command
import FlowBoard.Proofs.Cli.FileName
import FlowBoard.Proofs.Machine.Files

/-!
# Pages exported to files

The file of a page is named after the document and the page. Pages whose names are sanitized to
the same text share a file, and the last of them is what it holds in the end; so every page keeps a
file of its own exactly when the sanitized names differ.
-/

namespace FlowBoard.Cli

open FileName (Clear sanitize)
open FileSystem (workPlace)

variable {lone : Text.StandIns} {a : Arguments} {d : Document} {r r' : RenderedPage}
  {m m' : Machine}

/-! ## Stems and extensions -/

/-- A text of characters that are not barred, and not empty. -/
structure IsStem (s : String) : Prop where
  notEmpty : s ≠ ""
  clear : ∀ c ∈ s.toList, Clear c

theorem isStem_sanitize (name : String) : IsStem (sanitize name) where
  notEmpty := FileName.sanitize_ne_empty name
  clear _ hc := FileName.clear_of_mem_sanitize hc

theorem isStem_page (d : Document) (r : RenderedPage) :
    IsStem (documentStem d ++ "-" ++ sanitize r.page.name) where
  notEmpty := by simp
  clear := by
    simp only [String.toList_append, List.forall_mem_append]
    exact ⟨⟨(isStem_sanitize _).clear, FileName.forall_clear (by decide)⟩,
      (isStem_sanitize _).clear⟩

theorem extension_mem (a : Arguments) :
    a.extension ∈ [".md", ".png", ".svg", ".json", ".mmd"] := by
  rw [Arguments.extension]
  split_ifs <;> simp

/-- An extension is a dot and characters that are not barred. -/
theorem exists_extension (a : Arguments) :
    ∃ e, a.extension.toList = '.' :: e ∧ ∀ c ∈ e, Clear c := by
  have hall : ∀ s ∈ [".md", ".png", ".svg", ".json", ".mmd"],
      s.toList = '.' :: s.toList.tail ∧ s.toList.tail.all (Clear ·) = true := by decide
  obtain ⟨hextension, hclear⟩ := hall a.extension (extension_mem a)
  exact ⟨_, hextension, FileName.forall_clear hclear⟩

namespace IsStem

variable {stem : String} (h : IsStem stem)
include h

theorem dot_or_clear (a : Arguments) :
    ∀ c ∈ (stem ++ a.extension).toList, c = '.' ∨ Clear c := by
  obtain ⟨e, hextension, hclear⟩ := exists_extension a
  rw [String.toList_append, hextension, List.forall_mem_append, List.forall_mem_cons]
  exact ⟨fun c hc => .inr (h.clear c hc), .inl rfl, fun c hc => .inr (hclear c hc)⟩

/-- The first character of the stem tells the name from those of directories. -/
theorem ne_dots (a : Arguments) {s : String} (hs : s.toList.all (· == '.') = true) :
    stem ++ a.extension ≠ s := by
  obtain ⟨c, hc⟩ := List.exists_mem_of_ne_nil stem.toList (by simpa using h.notEmpty)
  rintro rfl
  have hdot : c = '.' := by simpa using List.all_eq_true.mp hs c (by simp [hc])
  exact absurd (h.clear c hc) (by rw [hdot]; decide)

theorem isFileName (a : Arguments) : IsFileName (stem ++ a.extension) where
  noSlash := fun hc => absurd (h.dot_or_clear a _ hc) (by decide)
  noNull := fun hc => absurd (h.dot_or_clear a _ hc) (by decide)
  notEmpty := h.ne_dots a (by decide)
  notHere := h.ne_dots a (by decide)
  notAbove := h.ne_dots a (by decide)

end IsStem

/-! ## Paths of pages -/

theorem toList_pagePath : (pagePath a d r).toList =
    (documentStem d).toList ++ '-' :: (FileName.sanitize r.page.name).toList ++
      a.extension.toList := by
  simp [pagePath]

theorem isFileName_pagePath (a : Arguments) (d : Document) (r : RenderedPage) :
    IsFileName (pagePath a d r) :=
  (isStem_page d r).isFileName a

theorem pagePath_inj : pagePath a d r = pagePath a d r' ↔
    FileName.sanitize r.page.name = FileName.sanitize r'.page.name := by
  rw [← String.toList_inj, ← String.toList_inj, toList_pagePath, toList_pagePath,
    List.append_left_inj, List.append_right_inj, List.cons.injEq]
  simp

/-! ## Writing the pages -/

/-- What the file of a page is to hold. -/
def pageText (a : Arguments) (r : RenderedPage) : String := fileText a.markdown r.mermaid

/-- The machine after a page was written to its file. -/
def afterPage (a : Arguments) (d : Document) (m : Machine) (r : RenderedPage) : Machine :=
  (m.withFile (pagePath a d r) (pageText a r)).noted ("Written to " ++ pagePath a d r)

/-- The file of a page can be written: its text has a code, and its path can take a file. -/
structure CanWrite (lone : Text.StandIns) (a : Arguments) (d : Document) (files : FileSystem)
    (r : RenderedPage) : Prop where
  plain : ∀ c ∈ (pageText a r).toList, lone.isStandIn c = false
  takes : files.Takes (pagePath a d r)

theorem writePage_eq_ok_iff (himage : a.imageFormat? = none) :
    writeFlowchart a lone r.mermaid (pagePath a d r) r.config m = (.ok (), m') ↔
      CanWrite lone a d m.files r ∧ m' = afterPage a d m r := by
  simp only [writeFlowchart, himage, Run.bind_eq_ok_iff, Run.note_eq_ok_iff,
    Run.writeCoded_eq_ok_iff, Run.writeText_eq_ok_iff (isFileName_pagePath a d r)]
  constructor
  · rintro ⟨_, _, ⟨hplain, htakes, rfl⟩, rfl⟩
    exact ⟨⟨hplain, htakes⟩, rfl⟩
  · rintro ⟨⟨hplain, htakes⟩, rfl⟩
    exact ⟨(), _, ⟨hplain, htakes, rfl⟩, rfl⟩

/-- The pages are written when each can be; then all of them are, in order. -/
theorem writePages_eq_ok_iff (himage : a.imageFormat? = none) (pages : List RenderedPage) :
    (pages.forM fun r => writeFlowchart a lone r.mermaid (pagePath a d r) r.config) m =
        (.ok (), m') ↔
      (∀ r ∈ pages, CanWrite lone a d m.files r) ∧ m' = pages.foldl (afterPage a d) m := by
  induction pages generalizing m with
  | nil =>
    change (Except.ok (), m) = (.ok (), m') ↔ _
    simp [eq_comm]
  | cons r rest ih =>
    rw [List.forM, Run.bind_eq_ok_iff]
    simp only [writePage_eq_ok_iff himage, ih, List.forall_mem_cons, List.foldl_cons]
    -- What was written before a page does not change whether its path takes a file.
    constructor
    · rintro ⟨_, _, ⟨hfirst, rfl⟩, hrest, rfl⟩
      refine ⟨⟨hfirst, fun r' hr' => ⟨(hrest r' hr').plain, ?_⟩⟩, rfl⟩
      exact (FileSystem.takes_withFile hfirst.takes _ _).mp (hrest r' hr').takes
    · rintro ⟨⟨hfirst, hrest⟩, rfl⟩
      refine ⟨(), _, ⟨hfirst, rfl⟩, fun r' hr' => ⟨(hrest r' hr').plain, ?_⟩, rfl⟩
      exact (FileSystem.takes_withFile hfirst.takes _ _).mpr (hrest r' hr').takes

/-- At the path of a page stands the text of the last page with that path. -/
theorem entry?_foldl_afterPage (pages : List RenderedPage) (m : Machine) (s : String) :
    FileSystem.entry? (pages.foldl (afterPage a d) m).files (workPlace ++ [s]) =
      match pages.reverse.find? (pagePath a d · = s) with
      | some r => some (.file (.text (pageText a r)))
      | none => m.files.entry? (workPlace ++ [s]) := by
  induction pages using List.reverseRecOn with
  | nil => rfl
  | append_singleton pages r ih =>
    rw [List.foldl_append, List.reverse_append]
    change FileSystem.entry? ((pages.foldl (afterPage a d) m).files.withFile _ _) _ = _
    rw [FileSystem.entry?_withFile, ih]
    by_cases hr : pagePath a d r = s
    · simp [hr]
    · simp [hr]

/-! ## A run that exports -/

/-- Takes a document from the sources of the mode that was asked for. -/
def takeDocument (a : Arguments) : Run PipelineResult := do
  let mode := a.source.getD defaultMode
  let request ← requestFor a mode
  let settings ← settingsFor mode
  Pipeline.run Source.boardAddress settings request mode (a.direction.map Direction.name) a.layout

/-- Tells the user about the chosen pages and exports them. -/
def exportChosen (a : Arguments) (lone : Text.StandIns) (d : Document)
    (pages : List RenderedPage) : Run Unit := do
  if pages.isEmpty then throw (sourceFault "No pages found to export.")
  pages.forM fun r => Run.note (lone.shown (pageNote r))
  exportDocument a lone d pages

/-- Exports the chosen pages of a document that was taken. -/
def exportResult (a : Arguments) (result : PipelineResult) : Run Unit := do
  if result.fallbackUsed then Run.note fallbackNote
  let pages ← Run.ofExcept (choosePages result a.page)
  exportChosen a result.standIns result.document pages

theorem exportFrom_eq (a : Arguments) :
    exportFrom a (a.source.getD defaultMode) = takeDocument a >>= exportResult a := by
  simp only [exportFrom, takeDocument, bind_assoc]
  rfl

theorem run_eq_ok_iff (hforms : ¬1 < a.formFlags.count true)
    (hdirect : direct? a m = (.ok none, m)) :
    run a m = (.ok (), m') ↔
      ∃ result m₁, takeDocument a m = (.ok result, m₁) ∧
        exportResult a result m₁ = (.ok (), m') := by
  rw [run, if_neg hforms, ← Run.bind_eq_ok_iff, ← exportFrom_eq]
  exact iff_of_eq (congrArg (· = _) (Run.bind_of_ok hdirect _))

theorem main_eq_zero_iff {words : List String} (hwords : Arguments.parse words = .ok a) :
    main words m = (.code 0, m') ↔ run a m = (.ok (), m') := by
  constructor
  · intro h
    rw [main, hwords] at h
    match hrun : run a m with
    | (.ok (), m₁) =>
      simp only [hrun, Prod.mk.injEq, true_and] at h
      rw [h]
    | (.error e, m₁) =>
      simp only [hrun, report] at h
      split_ifs at h <;> simp at h
  · intro h
    rw [main, hwords]
    simp only [h]

/-- The arguments ask for text files of all pages. -/
structure Arguments.AsksForPageFiles (a : Arguments) : Prop where
  noOutput : a.outputPath? = none
  noPage : Text.given? a.page = none
  noJson : a.json = false
  noPng : a.png = false
  noSvg : a.svg = false

/-- The machine after the user was told about the pages. -/
def announced (lone : Text.StandIns) (pages : List RenderedPage) (m : Machine) : Machine :=
  pages.foldl (fun m r => m.noted (lone.shown (pageNote r))) m

theorem exportChosen_eq_ok_iff (hasks : a.AsksForPageFiles) {pages : List RenderedPage}
    (hmany : 2 ≤ pages.length) :
    exportChosen a lone d pages m = (.ok (), m') ↔
      (∀ r ∈ pages, CanWrite lone a d m.files r) ∧
        m' = pages.foldl (afterPage a d) (announced lone pages m) := by
  have himage : a.imageFormat? = none := by
    rw [Arguments.imageFormat?, hasks.noPng, hasks.noSvg]
    rfl
  have hfiles : (announced lone pages m).files = m.files :=
    Machine.files_foldl_noted (fun r => lone.shown (pageNote r)) pages m
  match pages, hmany with
  | r :: r' :: rest, _ =>
    have hdocument : exportDocument a lone d (r :: r' :: rest) = (r :: r' :: rest).forM fun r =>
        writeFlowchart a lone r.mermaid (pagePath a d r) r.config := by
      simp [exportDocument, exportPages, hasks.noJson, hasks.noOutput]
    rw [exportChosen, if_neg (by simp), hdocument, Run.bind_eq_ok_iff]
    simp only [Run.forM_note_eq_ok_iff, writePages_eq_ok_iff himage]
    constructor
    · rintro ⟨_, _, rfl, hwrite, rfl⟩
      exact ⟨hfiles ▸ hwrite, rfl⟩
    · rintro ⟨hwrite, rfl⟩
      exact ⟨(), _, rfl, hfiles.symm ▸ hwrite, rfl⟩

/-- The machine after a document was taken and the user was told about its pages. -/
def informed (result : PipelineResult) (m : Machine) : Machine :=
  announced result.standIns result.pages (if result.fallbackUsed then m.noted fallbackNote else m)

theorem files_informed (result : PipelineResult) (m : Machine) :
    (informed result m).files = m.files := by
  rw [informed, announced, Machine.files_foldl_noted]
  split_ifs <;> rfl

theorem exportResult_eq_ok_iff (hasks : a.AsksForPageFiles) {result : PipelineResult}
    (hmany : 2 ≤ result.pages.length) :
    exportResult a result m = (.ok (), m') ↔
      (∀ r ∈ result.pages, CanWrite result.standIns a result.document m.files r) ∧
        m' = result.pages.foldl (afterPage a result.document) (informed result m) := by
  have hselect : choosePages result a.page = .ok result.pages := by
    rw [choosePages, PageChoice.select, hasks.noPage]
    rfl
  have hchosen : ∀ m₀ : Machine,
      (Run.ofExcept (.ok result.pages) >>= exportChosen a result.standIns result.document) m₀ =
          (.ok (), m') ↔
        (∀ r ∈ result.pages, CanWrite result.standIns a result.document m₀.files r) ∧
          m' = result.pages.foldl (afterPage a result.document)
            (announced result.standIns result.pages m₀) := by
    intro m₀
    rw [← exportChosen_eq_ok_iff hasks hmany]
    exact iff_of_eq (congrArg (· = _) (Run.bind_of_ok rfl _))
  rw [exportResult, hselect, informed]
  split_ifs with hfallback
  · rw [Run.bind_of_ok (Run.note_eq_ok_iff (u := ()).mpr rfl)]
    exact hchosen _
  · exact hchosen m

/-! ## Pages and their files -/

/-- Every page has a file of its own, which holds the page's text. -/
structure EachPageKept (a : Arguments) (d : Document) (pages : List RenderedPage)
    (fs : FileSystem) : Prop where
  pathsDiffer : (pages.map (pagePath a d)).Nodup
  textsStand : ∀ r ∈ pages,
    fs.contents (Path.ofString (pagePath a d r)) = .ok (.text (pageText a r))

/-- The last page whose name is sanitized to the same text as the name of a page. -/
def lastNamesake? (pages : List RenderedPage) (r : RenderedPage) : Option RenderedPage :=
  pages.reverse.find? fun r' => FileName.sanitize r'.page.name = FileName.sanitize r.page.name

theorem exists_lastNamesake {pages : List RenderedPage} (hr : r ∈ pages) :
    ∃ last, lastNamesake? pages r = some last := by
  rw [← Option.isSome_iff_exists, lastNamesake?, List.find?_isSome]
  exact ⟨r, List.mem_reverse.mpr hr, by simp⟩

theorem lastNamesake?_of_nodup {pages : List RenderedPage}
    (h : (pages.map fun r => FileName.sanitize r.page.name).Nodup) (hr : r ∈ pages) :
    lastNamesake? pages r = some r := by
  obtain ⟨last, hlast⟩ := exists_lastNamesake hr
  have hmem : last ∈ pages := List.mem_reverse.mp (List.mem_of_find?_eq_some hlast)
  have hname : FileName.sanitize last.page.name = FileName.sanitize r.page.name := by
    simpa using List.find?_some (show pages.reverse.find? _ = _ from hlast)
  rw [hlast, List.inj_on_of_nodup_map h hmem hr hname]

theorem nodup_pagePaths {pages : List RenderedPage} :
    (pages.map (pagePath a d)).Nodup ↔
      (pages.map fun r => FileName.sanitize r.page.name).Nodup := by
  simp only [List.Nodup, List.pairwise_map, ne_eq, pagePath_inj]

theorem contents_foldl_afterPage {pages : List RenderedPage}
    (htakes : ∀ r ∈ pages, m.files.Takes (pagePath a d r)) (hr : r ∈ pages) {last : RenderedPage}
    (hlast : lastNamesake? pages r = some last) :
    (pages.foldl (afterPage a d) m).files.contents (Path.ofString (pagePath a d r)) =
      .ok (.text (pageText a last)) := by
  have hfind : pages.reverse.find? (pagePath a d · = pagePath a d r) = some last := by
    simpa only [pagePath_inj, lastNamesake?] using hlast
  rw [FileSystem.contents_eq_ok_iff (isFileName_pagePath a d r), entry?_foldl_afterPage, hfind]
  exact ⟨(htakes r hr).1, rfl⟩

/-! ## Two namesakes -/

/-- Two canvases whose names differ in the case of a letter. -/
def namesakeText : String :=
  "<a><canvas id=\"1\" name=\"A\"/><canvas id=\"2\" name=\"a\"/></a>"

def namesakeMachine : Machine := { stdin := some namesakeText }

def namesakeWords : List String := ["--source", "stdin"]

def namesakeArguments : Arguments := { source := some .stdin }

theorem namesakeArguments_asks : namesakeArguments.AsksForPageFiles := ⟨rfl, rfl, rfl, rfl, rfl⟩

/-- What the sources give is a document of the two canvases, and no file was written. -/
def givesNamesakes : Except Failure PipelineResult × Machine → Bool
  | (.ok result, m) =>
    result.document.fileName = some "FigJam (2 canvases)" &&
      result.pages.map (fun r => r.page.name) = ["A", "a"] && m.files = {} &&
      result.standIns = {}
  | (.error _, _) => false

theorem takeDocument_namesakes :
    givesNamesakes (takeDocument namesakeArguments namesakeMachine) = true := by decide +kernel

theorem sanitize_namesakes : ∀ name ∈ ["A", "a"], FileName.sanitize name = "a" := by
  decide +kernel

theorem sanitize_namesakeFile :
    FileName.sanitize "FigJam (2 canvases)" = "figjam-2-canvases" := by
  have hopening : ¬FileName.isKept '(' = true := fun h =>
    absurd (FileName.clear_or_isBlank_of_isKept h) (by decide)
  have hclosing : ¬FileName.isKept ')' = true := fun h =>
    absurd (FileName.clear_or_isBlank_of_isKept h) (by decide)
  have hparts : ∀ part ∈ ["FigJam ", "2 canvases"],
      part.toList.filter FileName.isKept = part.toList := by
    have hchars : ∀ part ∈ ["FigJam ", "2 canvases"],
        part.toList.all (fun c => Text.isBlank c || Text.isWordChar c) = true := by decide +kernel
    intro part hpart
    refine List.filter_eq_self.mpr fun c hc => ?_
    rw [FileName.isKept, Bool.or_comm (Text.isWordChar c),
      List.all_eq_true.mp (hchars part hpart) c hc, Bool.true_or]
  have hkept : "FigJam (2 canvases)".toList.filter FileName.isKept =
      "FigJam ".toList ++ "2 canvases".toList := by
    change ("FigJam ".toList ++ '(' :: ("2 canvases".toList ++ [')'])).filter _ = _
    rw [List.filter_append, List.filter_cons_of_neg hopening, List.filter_append,
      List.filter_cons_of_neg hclosing, List.filter_nil, List.append_nil,
      hparts _ (by simp), hparts _ (by simp)]
  rw [FileName.sanitize, Text.onChars, FileName.sanitizeChars, hkept]
  decide +kernel

theorem takes_namesakes : FileSystem.Takes {} "figjam-2-canvases-a.mmd" :=
  ⟨by decide +kernel, by decide +kernel⟩

theorem exists_namesakes : ∃ result m m',
    takeDocument namesakeArguments namesakeMachine = (.ok result, m) ∧
      result.pages.map (fun r => r.page.name) = ["A", "a"] ∧
      main namesakeWords namesakeMachine = (.code 0, m') := by
  have hgives := takeDocument_namesakes
  rcases htaken : takeDocument namesakeArguments namesakeMachine with ⟨e | result, m⟩
  · rw [htaken] at hgives
    exact absurd hgives Bool.false_ne_true
  · rw [htaken] at hgives
    simp only [givesNamesakes, Bool.and_eq_true, decide_eq_true_eq] at hgives
    obtain ⟨⟨⟨hfile, hnames⟩, hfiles⟩, hlone⟩ := hgives
    have hmany : 2 ≤ result.pages.length := by
      rw [← List.length_map (fun r : RenderedPage => r.page.name), hnames]
      decide
    have hstem : documentStem result.document = "figjam-2-canvases" := by
      rw [documentStem, hfile]
      exact sanitize_namesakeFile
    have htakes : ∀ r ∈ result.pages,
        m.files.Takes (pagePath namesakeArguments result.document r) := by
      intro r hr
      have hname := sanitize_namesakes r.page.name
        (hnames ▸ List.mem_map_of_mem (f := fun r : RenderedPage => r.page.name) hr)
      rw [hfiles, pagePath, hstem, hname]
      exact takes_namesakes
    have hwrite : ∀ r ∈ result.pages,
        CanWrite result.standIns namesakeArguments result.document m.files r :=
      fun r hr => ⟨fun c _ => by rw [hlone, Text.StandIns.isStandIn_empty], htakes r hr⟩
    have hexported := (exportResult_eq_ok_iff namesakeArguments_asks hmany).mpr ⟨hwrite, rfl⟩
    have hrun := (run_eq_ok_iff (by decide) rfl).mpr ⟨result, m, htaken, hexported⟩
    exact ⟨result, m, _, rfl, hnames, (main_eq_zero_iff rfl).mpr hrun⟩

/-! ## Runs -/

/-- A run that exports all pages to text files and succeeds leaves at the path of each page the
text of its last namesake. So each page is kept exactly when no two names are sanitized alike. -/
theorem main_exports_pages {words : List String} {m₁ : Machine} {result : PipelineResult}
    (hwords : Arguments.parse words = .ok a) (hasks : a.AsksForPageFiles)
    (hdirect : direct? a m = (.ok none, m)) (htaken : takeDocument a m = (.ok result, m₁))
    (hmany : 2 ≤ result.pages.length) (hends : main words m = (.code 0, m')) :
    (∀ r ∈ result.pages, ∃ last, lastNamesake? result.pages r = some last ∧
      m'.files.contents (Path.ofString (pagePath a result.document r)) =
        .ok (.text (pageText a last))) ∧
    (EachPageKept a result.document result.pages m'.files ↔
      (result.pages.map fun r => FileName.sanitize r.page.name).Nodup) := by
  have hforms : ¬1 < a.formFlags.count true := by
    rw [Arguments.formFlags, hasks.noPng, hasks.noSvg, hasks.noJson]
    cases a.markdown <;> decide
  obtain ⟨result', m₂, htaken', hexported⟩ :=
    (run_eq_ok_iff hforms hdirect).mp ((main_eq_zero_iff hwords).mp hends)
  obtain ⟨hresult, rfl⟩ := Prod.mk.inj (htaken.symm.trans htaken')
  obtain rfl := Except.ok.inj hresult
  obtain ⟨hwrite, rfl⟩ := (exportResult_eq_ok_iff hasks hmany).mp hexported
  rw [← files_informed result] at hwrite
  have hstands : ∀ r ∈ result.pages, ∀ last, lastNamesake? result.pages r = some last → _ :=
    fun r hr last hlast => contents_foldl_afterPage (fun r hr => (hwrite r hr).takes) hr hlast
  refine ⟨fun r hr => ?_, fun hkept => nodup_pagePaths.mp hkept.pathsDiffer, fun hnames => ?_⟩
  · obtain ⟨last, hlast⟩ := exists_lastNamesake hr
    exact ⟨last, hlast, hstands r hr last hlast⟩
  · exact ⟨nodup_pagePaths.mpr hnames, fun r hr =>
      hstands r hr r (lastNamesake?_of_nodup hnames hr)⟩

theorem main_exports_namesakes : ∃ result m m',
    takeDocument namesakeArguments namesakeMachine = (.ok result, m) ∧
      main namesakeWords namesakeMachine = (.code 0, m') ∧
      (∀ r ∈ result.pages, ∃ last, lastNamesake? result.pages r = some last ∧
        m'.files.contents (Path.ofString (pagePath namesakeArguments result.document r)) =
          .ok (.text (pageText namesakeArguments last))) ∧
      (EachPageKept namesakeArguments result.document result.pages m'.files ↔
        (result.pages.map fun r => FileName.sanitize r.page.name).Nodup) := by
  obtain ⟨result, m, m', htaken, hnames, hends⟩ := exists_namesakes
  have hmany : 2 ≤ result.pages.length := by
    rw [← List.length_map (fun r : RenderedPage => r.page.name), hnames]
    decide
  exact ⟨result, m, m', htaken, hends,
    main_exports_pages rfl namesakeArguments_asks rfl htaken hmany hends⟩

/-- Two pages with different names are exported with success, but not to a file each. -/
theorem namesakes_share_file : ∃ result m m',
    takeDocument namesakeArguments namesakeMachine = (.ok result, m) ∧
      result.pages.map (fun r => r.page.name) = ["A", "a"] ∧
      main namesakeWords namesakeMachine = (.code 0, m') ∧
      ¬EachPageKept namesakeArguments result.document result.pages m'.files := by
  obtain ⟨result, m, m', htaken, hnames, hends⟩ := exists_namesakes
  refine ⟨result, m, m', htaken, hnames, hends, fun hkept => ?_⟩
  have hdiffer := nodup_pagePaths.mp hkept.pathsDiffer
  rw [← Function.comp_def FileName.sanitize fun r : RenderedPage => r.page.name,
    ← List.map_map, hnames] at hdiffer
  revert hdiffer
  decide +kernel

end FlowBoard.Cli
