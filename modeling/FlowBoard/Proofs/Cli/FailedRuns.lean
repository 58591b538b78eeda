import FlowBoard.Proofs.Cli.Export
import FlowBoard.Proofs.Ingestion.Kept
import FlowBoard.Proofs.Raster

/-!
# Runs that fail leave nothing behind

All that the command does before it exports keeps files and standard output, and what it then does
to them comes after the last step that can fail with a failure of the program's own; the rasterizer
alone may fail in such a way later, and it does not write to standard output. So a run that ends
with code 1 has written nothing there, and unless it was to make images the files are as before.
-/

namespace FlowBoard

open Run (Keeps Spares NeverOwn)

/-! ## Environment files and settings -/

theorem keeps_setVariable (name : String) (value : Option String) :
    Keeps Machine.effects (EnvFile.setVariable name value) := by
  refine Keeps.get.bind fun m => ?_
  split
  · split
    · exact Keeps.throw _
    · exact Keeps.modify fun _ => rfl
  · exact Keeps.pure _

theorem keeps_load (text : String) : Keeps Machine.effects (EnvFile.load text) := by
  refine (Keeps.forM Run.keeps_note _).bind fun _ => Keeps.get.bind fun m => ?_
  exact Keeps.forM (fun binding : String × Option String => keeps_setVariable _ _) _

theorem keeps_loadNearest (directory : Path) :
    Keeps Machine.effects (EnvFile.loadNearest directory) := by
  refine Keeps.get.bind fun m => (Keeps.ofExcept _).bind fun found => ?_
  cases found with
  | none => exact Keeps.pure _
  | some path =>
    refine (Keeps.ofExcept _).bind fun isFile => ?_
    cases isFile with
    | false => exact Keeps.pure _
    | true =>
      refine (Run.keeps_readText path).bind fun text => ?_
      exact (keeps_load text).bind fun _ => Keeps.pure _

/-! ## The rasterizer -/

theorem keeps_dropTemps (names : List String) : Keeps Machine.output (Raster.dropTemps names) :=
  Keeps.modify fun _ => rfl

theorem keeps_addTemps (files : List Raster.Draft) :
    Keeps Machine.output (Raster.addTemps files) := by
  intro m
  obtain ⟨recorded, result, m', hadd, hmakes⟩ := Raster.exists_makes files m
  rw [hadd, hmakes.eq_with_temps]
  rfl

theorem keeps_start (command : List String) (timeout : Number) :
    Keeps Machine.output (Raster.start command timeout) := by
  refine Keeps.ite (Keeps.throw_bind _ _) (Keeps.get.bind fun m => ?_)
  refine (Keeps.modify ?_).bind fun _ => ?_
  · exact fun _ => rfl
  dsimp only
  split_ifs
  · exact (keeps_dropTemps _).bind fun _ => Keeps.pure _
  · exact Keeps.pure _

theorem keeps_stdout_convert (output : String) (format : ImageFormat) (config : Option Json)
    (timeout : Number) : Keeps Machine.stdout (Raster.convert output format config timeout) := by
  refine Keeps.get.bind fun m => (Keeps.ofExcept _).bind fun files => ?_
  refine (Keeps.modify ?_).bind fun _ => ?_
  · exact fun _ => rfl
  exact ((keeps_start _ _).comp Prod.snd).bind fun _ => Keeps.ofExcept _

/-- The rasterizer may leave directories, but does not write to standard output. -/
theorem keeps_stdout_renderWith (lone : Text.StandIns) (mermaid output format : String)
    (config : Option Json) (timeout : Number) :
    Keeps Machine.stdout (Raster.renderWith lone mermaid output format config timeout) := by
  unfold Raster.renderWith
  split
  case h_1 => exact Keeps.throw _
  case h_2 format _ =>
    refine ((keeps_addTemps _).comp Prod.snd).bind fun (recorded, written) => ?_
    have htry : Keeps Machine.stdout (do
        Run.ofExcept written
        Raster.convert output format (config.filter (!Raster.isEmptyConfig ·)) timeout) :=
      (Keeps.ofExcept _).bind fun _ => keeps_stdout_convert _ _ _ _
    refine htry.attempt.bind fun result => ?_
    exact ((keeps_dropTemps _).comp Prod.snd).bind fun _ => Keeps.ofExcept _

namespace Cli

variable {a : Arguments}

/-! ## Before the export -/

theorem keeps_direct? : Keeps Machine.effects (direct? a) := by
  refine Keeps.get.bind fun m => ?_
  refine Keeps.ite (Keeps.pure _) (Keeps.ite (Keeps.pure _) (Keeps.ite (Keeps.pure _) ?_))
  exact Keeps.ite (Keeps.pure _) ((Keeps.ofExcept _).bind fun _ => Keeps.pure _)

theorem keeps_readDirect (d : Direct) : Keeps Machine.effects (readDirect d) := by
  cases d with
  | stdin => exact (Run.keeps_readStdin _).bind fun _ => Keeps.pure _
  | file value =>
    refine (Run.keeps_readText _).attempt.bind fun result => ?_
    cases result with
    | ok text => exact Keeps.pure _
    | error e => exact Keeps.throw _

theorem keeps_requestFor (mode : Mode) : Keeps Machine.effects (requestFor a mode) := by
  refine Keeps.ite (Keeps.throw_bind _ _) ((keeps_loadNearest _).bind fun _ => ?_)
  refine Keeps.ite ?_ (Keeps.pure _)
  exact Keeps.get.bind fun m => (Keeps.ofExcept _).bind fun _ => Keeps.pure _

theorem keeps_settingsFor (mode : Mode) : Keeps Machine.effects (settingsFor mode) :=
  Keeps.ite (Keeps.get.bind fun _ => Keeps.ofExcept _) (Keeps.pure _)

theorem keeps_takeDocument (a : Arguments) : Keeps Machine.effects (takeDocument a) := by
  refine (keeps_requestFor _).bind fun request => (keeps_settingsFor _).bind fun settings => ?_
  exact keeps_effects_pipeline _ settings request _ _ _

/-! ## The export -/

/-- What is to be left as it was when a run fails: standard output and, unless images are asked
for, the files. -/
def kept (a : Arguments) (m : Machine) : Option FileSystem × String :=
  (if a.imageFormat?.isSome then none else some m.files, m.stdout)

theorem keeps_kept {α : Type} {r : Run α} (h : Keeps Machine.effects r) : Keeps (kept a) r :=
  h.comp fun seen => (if a.imageFormat?.isSome then none else some seen.1.1, seen.1.2)

theorem neverOwn_writeFlowchart (himage : a.imageFormat? = none) (lone : Text.StandIns)
    (mermaid path : String) (config : Option Json) :
    NeverOwn (writeFlowchart a lone mermaid path config) := by
  simp only [writeFlowchart, himage]
  exact (Run.neverOwn_writeCoded _ _ _).bind fun _ => Run.neverOwn_note _

theorem keeps_writeFlowchart {format : ImageFormat} (himage : a.imageFormat? = some format)
    (lone : Text.StandIns) (mermaid path : String) (config : Option Json) :
    Keeps (kept a) (writeFlowchart a lone mermaid path config) := by
  have hstdout : Keeps Machine.stdout (writeFlowchart a lone mermaid path config) := by
    simp only [writeFlowchart, himage]
    refine (keeps_stdout_renderWith _ _ _ _ _ _).bind fun _ => ?_
    exact (Run.keeps_note _).comp fun seen => seen.1.2
  intro m
  simp only [kept, himage, Option.isSome_some, if_true, hstdout m]

/-- Either no page can fail in such a way or none touches what is to be kept, so it does not matter
how many were written before. -/
theorem spares_forM_writeFlowchart {α : Type} (items : List α) (lone : Text.StandIns)
    (mermaid path : α → String) (config : α → Option Json) :
    Spares (kept a)
      (items.forM fun i => writeFlowchart a lone (mermaid i) (path i) (config i)) := by
  cases himage : a.imageFormat? with
  | none =>
    refine Spares.of_neverOwn (Run.FailsOnly.forM (fun i => ?_) items)
    exact neverOwn_writeFlowchart himage lone _ _ _
  | some format =>
    exact Spares.of_keeps (Keeps.forM (fun i => keeps_writeFlowchart himage lone _ _ _) items)

theorem spares_writeFlowchart (lone : Text.StandIns) (mermaid path : String)
    (config : Option Json) : Spares (kept a) (writeFlowchart a lone mermaid path config) := by
  cases himage : a.imageFormat? with
  | none => exact Spares.of_neverOwn (neverOwn_writeFlowchart himage _ _ _ _)
  | some format => exact Spares.of_keeps (keeps_writeFlowchart himage _ _ _ _)

theorem spares_print (s : String) : Spares (kept a) (Run.print s) :=
  Spares.of_neverOwn (Run.neverOwn_print s)

theorem spares_passThrough (d : Direct) : Spares (kept a) (passThrough a d) := by
  refine Spares.ite (fun _ => Spares.of_keeps (Keeps.throw_bind _ _)) fun _ => ?_
  refine Spares.bind (keeps_kept (keeps_readDirect d)) fun parts => ?_
  refine Spares.ite (fun _ => Spares.of_keeps (Keeps.throw_bind _ _)) fun _ => ?_
  refine Spares.ite (fun _ => ?_) fun _ => spares_print _
  exact Spares.bind (keeps_kept (Run.keeps_note _)) fun _ => spares_writeFlowchart _ _ _ _

theorem spares_exportJson (lone : Text.StandIns) (d : Document) (pages : List RenderedPage) :
    Spares (kept a) (exportJson a lone d pages) := by
  unfold exportJson
  dsimp only
  split
  · refine Spares.of_neverOwn ?_
    exact (Run.neverOwn_writeText _ _).bind fun _ => Run.neverOwn_note _
  · exact spares_print _

theorem spares_exportDocument (lone : Text.StandIns) (d : Document) (pages : List RenderedPage) :
    Spares (kept a) (exportDocument a lone d pages) := by
  refine Spares.ite (fun _ => spares_exportJson lone d pages) fun _ => ?_
  split
  · refine Spares.ite (fun _ => spares_writeFlowchart _ _ _ _) fun _ => ?_
    exact Spares.of_neverOwn (Run.neverOwn_printCoded lone _)
  · refine Spares.ite (fun _ => Spares.of_keeps (Keeps.throw _)) fun _ => ?_
    exact spares_forM_writeFlowchart _ _ _ _ _

theorem spares_exportChosen (lone : Text.StandIns) (d : Document) (pages : List RenderedPage) :
    Spares (kept a) (exportChosen a lone d pages) := by
  refine Spares.ite (fun _ => Spares.of_keeps (Keeps.throw_bind _ _)) fun _ => ?_
  refine Spares.bind (keeps_kept (Keeps.forM (fun r => Run.keeps_note _) _)) fun _ => ?_
  exact spares_exportDocument lone d pages

theorem spares_exportResult (result : PipelineResult) :
    Spares (kept a) (exportResult a result) := by
  have hrest : Spares (kept a) (Run.ofExcept (choosePages result a.page) >>=
      exportChosen a result.standIns result.document) :=
    Spares.bind (Keeps.ofExcept _) fun pages => spares_exportChosen _ _ pages
  refine Spares.ite (fun _ => ?_) fun _ => hrest
  exact Spares.bind (keeps_kept (Run.keeps_note _)) fun _ => hrest

/-- A run that fails with a failure of the program's own leaves what is to be kept. -/
theorem spares_run (a : Arguments) : Spares (kept a) (run a) := by
  refine Spares.ite (fun _ => Spares.of_keeps (Keeps.throw_bind _ _)) fun _ => ?_
  refine Spares.bind (keeps_kept keeps_direct?) fun direct => ?_
  cases direct with
  | none =>
    rw [exportFrom_eq]
    exact Spares.bind (keeps_kept (keeps_takeDocument a)) spares_exportResult
  | some d => exact spares_passThrough d

/-- The command ends with code 1 after a failure of the program's own only. -/
theorem main_eq_one {words : List String} {m m' : Machine}
    (h : main words m = (.code 1, m')) :
    ∃ a e m₁, Arguments.parse words = .ok a ∧ run a m = (.error e, m₁) ∧ e.isOwn = true ∧
      m'.files = m₁.files ∧ m'.stdout = m₁.stdout := by
  rw [main] at h
  split at h
  · cases h
  · cases h
  case h_3 a hwords =>
    split at h
    · cases h
    case h_2 e m₁ hrun =>
      rw [report] at h
      split_ifs at h with hown
      · obtain rfl := (Prod.mk.inj h).2
        exact ⟨a, e, m₁, hwords, hrun, hown, rfl, rfl⟩
      · cases h

/-- After a run that ended with code 1 standard output is as it was and, unless an image was asked
for, so are the files. -/
theorem main_one_leaves {words : List String} {m m' : Machine}
    (h : main words m = (.code 1, m')) :
    m'.stdout = m.stdout ∧
      ∀ a, Arguments.parse words = .ok a → a.png = false → a.svg = false → m'.files = m.files := by
  obtain ⟨a, e, m₁, hwords, hrun, hown, hfiles, hstdout⟩ := main_eq_one h
  have hkept := spares_run a m e m₁ hrun hown
  refine ⟨hstdout.trans (congrArg Prod.snd hkept), fun a' hwords' hpng hsvg => ?_⟩
  obtain rfl := Except.ok.inj (hwords.symm.trans hwords')
  have hnone : a.imageFormat? = none := by
    rw [Arguments.imageFormat?, hpng, hsvg]
    rfl
  simp only [kept, hnone, Option.isSome_none, Bool.false_eq_true, if_false] at hkept
  exact hfiles.trans (Option.some.inj (congrArg Prod.fst hkept))

/-- Ready Mermaid text in which nothing stands. -/
def blankMachine : Machine :=
  { files := ⟨[(FileSystem.workPlace ++ ["a.mmd"], .file (.text " "))]⟩ }

theorem main_one_leaves_blankMachine :
    ∃ m', main ["a.mmd", "--markdown"] blankMachine = (.code 1, m') ∧
      m'.stdout = "" ∧ m'.files = blankMachine.files := by
  have hending : (main ["a.mmd", "--markdown"] blankMachine).1 = .code 1 := by decide +kernel
  have hwords : Arguments.parse ["a.mmd", "--markdown"] =
      .ok { input := some "a.mmd", markdown := true } := rfl
  rcases hmain : main ["a.mmd", "--markdown"] blankMachine with ⟨ending, m'⟩
  rw [hmain] at hending
  obtain rfl : ending = .code 1 := hending
  obtain ⟨hstdout, hfiles⟩ := main_one_leaves hmain
  exact ⟨m', rfl, hstdout, hfiles _ hwords rfl rfl⟩

end Cli

end FlowBoard
