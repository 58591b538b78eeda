import FlowBoard.Proofs.Cli.FailedRuns
import FlowBoard.Proofs.Machine.Written

/-!
# Names of output files

A run without a path for its output writes in the working directory only, and under names that a
sanitized text gives: no document, page or file can choose a directory, a hidden name or an
extension. The same names are what the rasterizer is handed.
-/

namespace FlowBoard.Cli

open FileName (sanitize)
open Run (WritesUnder Keeps)

variable {a : Arguments}

/-- A name of an output file: one component of a path, with no dot but that of its extension. -/
structure IsOutputName (extension name : String) : Prop extends IsFileName name where
  noBackslash : '\\' ∉ name.toList
  noBlank : ∀ c ∈ name.toList, Text.isBlank c = false
  oneDot : name.toList.count '.' = 1
  stem : ∃ stem, stem ≠ "" ∧ '.' ∉ stem.toList ∧ name = stem ++ extension
  component : Path.ofString name = ⟨0, [name]⟩

theorem IsStem.isOutputName {stem : String} (h : IsStem stem) (a : Arguments) :
    IsOutputName a.extension (stem ++ a.extension) where
  toIsFileName := h.isFileName a
  noBackslash := fun hc => absurd (h.dot_or_clear a _ hc) (by decide)
  noBlank c hc := by
    rcases h.dot_or_clear a c hc with rfl | hclear
    · decide
    · exact hclear.not_isBlank
  oneDot := by
    obtain ⟨e, hextension, hclear⟩ := exists_extension a
    rw [String.toList_append, hextension, List.count_append, List.count_cons_self,
      List.count_eq_zero.mpr (FileName.dot_not_mem h.clear),
      List.count_eq_zero.mpr (FileName.dot_not_mem hclear)]
  stem := ⟨stem, h.notEmpty, FileName.dot_not_mem h.clear, rfl⟩
  component := Path.ofString_of_isFileName (h.isFileName a)

/-! ## What is written -/

variable {named : String → Prop}

theorem writesUnder_writeFlowchart {path : String} (hpath : named path) (lone : Text.StandIns)
    (mermaid : String) (config : Option Json) :
    WritesUnder named (writeFlowchart a lone mermaid path config) := by
  have hnote : WritesUnder named (Run.note ("Written to " ++ path)) := .of_keeps (Run.keeps_note _)
  cases himage : a.imageFormat? with
  | none =>
    simp only [writeFlowchart, himage]
    exact (WritesUnder.coded hpath _ _).bind fun _ _ _ _ => hnote
  | some format =>
    simp only [writeFlowchart, himage]
    exact (WritesUnder.image hpath _ _ _ _ _).bind fun _ _ _ _ => hnote

theorem writesUnder_print (s : String) : WritesUnder named (Run.print s) :=
  .quiet (Keeps.modify fun _ => rfl)

theorem writesUnder_printCoded (lone : Text.StandIns) (s : String) :
    WritesUnder named (Run.printCoded lone s) :=
  .bind (.of_keeps (Keeps.ofExcept _)) fun _ _ _ _ => writesUnder_print _

/-- What ready text is named after is sanitized, or the name of standard input. -/
theorem isStem_of_readDirect {d : Direct} {m m' : Machine} {text stem title : String}
    (h : readDirect d m = (.ok (text, stem, title), m')) : IsStem stem := by
  cases d with
  | stdin =>
    obtain ⟨text', m₁, -, hparts⟩ := Run.bind_eq_ok_iff.mp h
    obtain ⟨hparts, -⟩ := Run.pure_eq_ok_iff.mp hparts
    obtain ⟨-, rfl, -⟩ : text = text' ∧ stem = "stdin" ∧ title = "stdin" := by simpa using hparts
    exact ⟨by decide, FileName.forall_clear (by decide)⟩
  | file value =>
    obtain ⟨result, m₁, -, hparts⟩ := Run.bind_eq_ok_iff.mp h
    cases result with
    | error e => cases hparts
    | ok text' =>
      obtain ⟨hparts, -⟩ := Run.pure_eq_ok_iff.mp hparts
      simp only [Prod.mk.injEq] at hparts
      rw [hparts.2.1]
      exact isStem_sanitize _

section

variable (houtput : a.outputPath? = none)
include houtput

theorem writesUnder_passThrough (d : Direct) :
    WritesUnder (IsOutputName a.extension) (passThrough a d) := by
  refine .ite (fun _ => .throw_bind _ _) fun _ => ?_
  refine .bind (.of_keeps (keeps_readDirect d)) ?_
  rintro m ⟨text, stem, title⟩ m' hread
  refine .ite (fun _ => .throw_bind _ _) fun _ => .ite (fun _ => ?_) fun _ => writesUnder_print _
  refine .bind (.of_keeps (Run.keeps_note _)) fun _ _ _ _ => ?_
  rw [houtput]
  exact writesUnder_writeFlowchart ((isStem_of_readDirect hread).isOutputName a) _ _ _

theorem writesUnder_exportJson (lone : Text.StandIns) (d : Document)
    (pages : List RenderedPage) : WritesUnder named (exportJson a lone d pages) := by
  simp only [exportJson, houtput]
  exact writesUnder_print _

theorem writesUnder_exportDocument (lone : Text.StandIns) (d : Document)
    (pages : List RenderedPage) :
    WritesUnder (IsOutputName a.extension) (exportDocument a lone d pages) := by
  have hpage : ∀ r : RenderedPage, IsOutputName a.extension (pagePath a d r) := fun r =>
    (isStem_page d r).isOutputName a
  refine .ite (fun _ => writesUnder_exportJson houtput lone d pages) fun _ => ?_
  split
  · refine .ite (fun _ => ?_) fun _ => writesUnder_printCoded _ _
    rw [houtput]
    exact writesUnder_writeFlowchart (hpage _) _ _ _
  · refine .ite (fun _ => .throw _) fun _ => ?_
    exact .forM (fun r => writesUnder_writeFlowchart (hpage r) _ _ _) _

theorem writesUnder_exportChosen (lone : Text.StandIns) (d : Document)
    (pages : List RenderedPage) :
    WritesUnder (IsOutputName a.extension) (exportChosen a lone d pages) := by
  refine .ite (fun _ => .throw_bind _ _) fun _ => ?_
  refine .bind (.of_keeps (Keeps.forM (fun r => Run.keeps_note _) _)) fun _ _ _ _ => ?_
  exact writesUnder_exportDocument houtput lone d pages

theorem writesUnder_exportResult (result : PipelineResult) :
    WritesUnder (IsOutputName a.extension) (exportResult a result) := by
  have hrest : WritesUnder (IsOutputName a.extension)
      (Run.ofExcept (choosePages result a.page) >>=
        exportChosen a result.standIns result.document) :=
    .bind (.of_keeps (Keeps.ofExcept _)) fun _ pages _ _ =>
      writesUnder_exportChosen houtput _ _ pages
  refine .ite (fun _ => ?_) fun _ => hrest
  exact .bind (.of_keeps (Run.keeps_note _)) fun _ _ _ _ => hrest

theorem writesUnder_run : WritesUnder (IsOutputName a.extension) (run a) := by
  refine .ite (fun _ => .throw_bind _ _) fun _ => ?_
  refine .bind (.of_keeps keeps_direct?) fun _ direct _ _ => ?_
  cases direct with
  | none =>
    rw [exportFrom_eq]
    refine .bind (.of_keeps (keeps_takeDocument a)) fun _ result _ _ => ?_
    exact writesUnder_exportResult houtput result
  | some d => exact writesUnder_passThrough houtput d

end

/-! ## Whole runs -/

/-- A name of an output file for the words of a command line, whose flags give the extension. -/
def NamesOutput (words : List String) (name : String) : Prop :=
  ∃ a, Arguments.parse words = .ok a ∧ IsOutputName a.extension name

/-- A command that is refused does nothing, and how a run ended is told on the streams only. -/
theorem made_main_of_ok {words : List String} (hwords : Arguments.parse words = .ok a)
    (m : Machine) : (main words m).2.made = (run a m).2.made := by
  rw [main, hwords]
  dsimp only
  rcases run a m with ⟨e | _, m'⟩
  · dsimp only
    rw [report]
    split_ifs <;> rfl
  · rfl

theorem made_main_of_refused {words : List String} {refusal : Refusal}
    (hwords : Arguments.parse words = .error refusal) (m : Machine) :
    (main words m).2.made = m.made := by
  rw [main, hwords]
  cases refusal <;> rfl

/-- Without a path for its output a command writes under names of output files only, each one
component of a path in the working directory; it hands no other name to the rasterizer, and no
other place is changed. So it is for any document and any files, and however the run ends. -/
theorem main_writes_here (words : List String) (m : Machine)
    (houtput : ∀ a, Arguments.parse words = .ok a → a.outputPath? = none) :
    (∀ a, Arguments.parse words = .ok a →
        WritesUnder (IsOutputName a.extension) (run a)) ∧
      m.WrittenUnder (NamesOutput words) (main words m).2 ∧
      ∀ place, (main words m).2.files.entry? place ≠ m.files.entry? place →
        ∃ name, NamesOutput words name ∧ place = FileSystem.workPlace ++ [name] := by
  have hwritten : m.WrittenUnder (NamesOutput words) (main words m).2 := by
    cases hwords : Arguments.parse words with
    | error refusal => exact .of_made_eq (made_main_of_refused hwords m)
    | ok a =>
      have hrun : m.WrittenUnder (IsOutputName a.extension) (run a m).2 :=
        (writesUnder_run (houtput a hwords)).writtenUnder (fun _ h => h.toIsFileName) m
      refine .trans (hrun.mono fun name hname => ⟨a, hwords, hname⟩) (.of_made_eq ?_)
      exact made_main_of_ok hwords m
  exact ⟨fun a hwords => writesUnder_run (houtput a hwords), hwritten,
    fun _ hplace => hwritten.exists_of_entry?_ne hplace⟩

/-- A file whose stem is the step to the directory above. -/
def dotsMachine : Machine :=
  { files := ⟨[(FileSystem.workPlace ++ ["...mmd"], .file (.text "flowchart TD\n"))]⟩ }

def dotsWords : List String := ["...mmd", "--markdown"]

def dotsArguments : Arguments := { input := some "...mmd", markdown := true }

theorem parse_dotsWords : Arguments.parse dotsWords = .ok dotsArguments := rfl

theorem sanitize_dots : sanitize ".." = "output" :=
  FileName.sanitize_of_nothing_kept fun c hc => by
    obtain rfl : c = '.' := by simpa using hc
    exact FileName.not_isKept_of_not_clear (by decide) (by decide)

theorem readDirect_dots : readDirect (.file "...mmd") dotsMachine =
    (.ok ("flowchart TD\n", "output", "...mmd"), dotsMachine) := by
  rw [← sanitize_dots]
  rfl

theorem direct?_dots : direct? dotsArguments dotsMachine =
    (.ok (some (.file "...mmd")), dotsMachine) := rfl

/-- What the run leaves. -/
def dotsWritten : Machine :=
  ((dotsMachine.noted "[jamaid] Passing through Mermaid from ...mmd").withFile "output.md"
    (Mermaid.block "flowchart TD\n")).noted "Written to output.md"

theorem run_dots : run dotsArguments dotsMachine = (.ok (), dotsWritten) := by
  rw [run, if_neg (by decide)]
  refine (Run.bind_of_ok direct?_dots _).trans ?_
  change passThrough dotsArguments (.file "...mmd") dotsMachine = _
  rw [passThrough, if_neg (by decide)]
  exact (Run.bind_of_ok readDirect_dots _).trans rfl

theorem main_writes_here_dots :
    main dotsWords dotsMachine = (.code 0, dotsWritten) ∧ NamesOutput dotsWords "output.md" := by
  have hmain : main dotsWords dotsMachine = (.code 0, dotsWritten) :=
    (main_eq_zero_iff parse_dotsWords).mpr run_dots
  have hplain : ∀ a, Arguments.parse dotsWords = .ok a → a.outputPath? = none := by
    intro a hwords
    obtain rfl := Except.ok.inj (parse_dotsWords.symm.trans hwords)
    rfl
  obtain ⟨-, -, hplaces⟩ := main_writes_here dotsWords dotsMachine hplain
  rw [hmain] at hplaces
  obtain ⟨name, hname, hplace⟩ := hplaces (FileSystem.workPlace ++ ["output.md"]) (by decide)
  obtain rfl : name = "output.md" := by simpa using hplace.symm
  exact ⟨hmain, hname⟩

end FlowBoard.Cli
