import FlowBoard.Proofs.Cli.FailedRuns
import FlowBoard.Proofs.Ingestion.Fallback
import FlowBoard.Proofs.Text.Trimmed

/-!
# How the command ends

A run of accepted words ends with code 0, with code 1 after a line about a failure of the program's
own, or with another failure, which is not reported. Octets that are no text are such a failure in a
file of ready Mermaid text, though a source that is a file reports the same octets.
-/

namespace FlowBoard.Cli

variable {words : List String} {a : Arguments} {m m' : Machine} {value : String}
  {octets : Text.Octets} {fault : Text.Utf8Error}

/-! ## Endings -/

/-- The run ends with code 1 after a line about a failure of the program's own. -/
def Reports (words : List String) (m : Machine) : Prop :=
  ∃ (e : Failure) (m' : Machine), e.isOwn = true ∧
    main words m = (.code 1, m'.noted ("Error: " ++ e.message))

/-- The run ends with a failure that is not reported. -/
def Escapes (words : List String) (m : Machine) : Prop := ∃ e m', main words m = (.failed e, m')

theorem main_of_own {e : Failure} (hwords : Arguments.parse words = .ok a)
    (h : run a m = (.error e, m')) (hown : e.isOwn = true) :
    main words m = (.code 1, m'.noted ("Error: " ++ e.message)) := by
  rw [main, hwords]
  simp only [h, report, hown, if_true, Machine.noted, ← String.append_assoc]

theorem main_of_foreign {e : Failure} (hwords : Arguments.parse words = .ok a)
    (h : run a m = (.error e, m')) (hown : e.isOwn = false) :
    main words m = (.failed e, m') := by
  rw [main, hwords]
  simp only [h, report, hown, Bool.false_eq_true, if_false]

theorem ends_of_parse (hwords : Arguments.parse words = .ok a) (m : Machine) :
    (∃ m', main words m = (.code 0, m')) ∨ Reports words m ∨ Escapes words m := by
  rcases hrun : run a m with ⟨e | _, m'⟩
  · cases hown : e.isOwn with
    | true => exact .inr (.inl ⟨e, m', hown, main_of_own hwords hrun hown⟩)
    | false => exact .inr (.inr ⟨e, m', main_of_foreign hwords hrun hown⟩)
  · exact .inl ⟨m', (main_eq_zero_iff hwords).mpr hrun⟩

/-! ## A source that is a file -/

theorem requestFor_file {loaded : Option Path} (hinput : inputValue a = value) (hvalue : value ≠ "")
    (hload : EnvFile.loadNearest ⟨1, FileSystem.workPlace⟩ m = (.ok loaded, m')) :
    requestFor a .file m = (.ok { input := value, format := some a.format.name }, m') := by
  have hempty : value.isEmpty = false := by simpa using hvalue
  have hgiven : ¬(decide (Mode.file ≠ .stdin) && value.isEmpty) = true := by simp [hempty]
  simp only [requestFor, hinput, reduceCtorEq, if_false]
  rw [if_neg hgiven]
  exact Run.bind_of_ok hload _

/-- A run on a file fails as the source does, once the environment file is loaded. -/
theorem run_of_ingestFile {loaded : Option Path} {e : Failure}
    (hforms : ¬1 < a.formFlags.count true) (hsource : a.source = some .file)
    (hinput : inputValue a = value) (hvalue : value ≠ "")
    (hload : EnvFile.loadNearest ⟨1, FileSystem.workPlace⟩ m = (.ok loaded, m'))
    (hingest : Source.ingestFile { input := value, format := some a.format.name } m' =
      (.error e, m')) : run a m = (.error e, m') := by
  have hget : (get : Run Machine) m = (.ok m, m) := rfl
  have hdirect : direct? a m = (.ok none, m) := by
    rw [direct?, Run.bind_of_ok hget]
    simp [hsource]
    rfl
  have hselect : Source.firstUsable Run.note (Mode.file == .auto) none
      (Pipeline.sources Source.boardAddress {} { input := value, format := some a.format.name }
        .file) m' = (.ok (.error e), m') :=
    Source.firstUsable_of_final hingest rfl []
  have hsettings : settingsFor .file m' = (.ok {}, m') := rfl
  have htaken : takeDocument a m = (.error e, m') := by
    rw [takeDocument, hsource, Option.getD_some,
      Run.bind_of_ok (requestFor_file hinput hvalue hload), Run.bind_of_ok hsettings,
      Pipeline.run_of_selection .file hselect]
    rfl
  rw [run, if_neg hforms]
  refine (Run.bind_of_ok hdirect _).trans ?_
  change exportFrom a (a.source.getD defaultMode) m = _
  rw [exportFrom_eq, Run.bind_of_error htaken]

/-! ## Octets that are no text -/

theorem readText_of_undecodable {path : Path} (hfile : m.files.contents path = .ok (.raw octets))
    (hdecode : Text.decode octets = .error fault) :
    Run.readText path m = (.error fault.failure, m) := by
  have hget : (get : Run Machine) m = (.ok m, m) := rfl
  have hread : m.files.readText path = .error fault.failure := by
    rw [FileSystem.readText, hfile]
    change Contents.read (.raw octets) = _
    simp only [Contents.read, hdecode]
  rw [Run.readText, Run.bind_of_ok hget, hread]
  rfl

/-- What a source that is a file reports when the file cannot be decoded. -/
def unreadableFile (value message : String) : Failure :=
  sourceFault ("Failed to read input file \"" ++ value ++ "\": " ++ message)

theorem unreadable_undecodable (value : String) (fault : Text.Utf8Error) :
    Source.unreadable ("input file \"" ++ value ++ "\"") fault.failure =
      unreadableFile value fault.failure.message := by
  refine congrArg sourceFault (String.toList_inj.mp ?_)
  simp [String.toList_append]

section Undecodable

variable (hfile : m.files.contents (Path.ofString value) = .ok (.raw octets))
  (hdecode : Text.decode octets = .error fault)
include hfile hdecode

/-- Ready Mermaid text that cannot be decoded is an error of the codec, which is passed on. -/
theorem run_of_direct (hforms : ¬1 < a.formFlags.count true) (hjson : a.json = false)
    (hdirect : direct? a m = (.ok (some (.file value)), m)) :
    run a m = (.error fault.failure, m) := by
  have hread : readDirect (.file value) m = (.error fault.failure, m) := by
    rw [readDirect, Run.bind_of_ok (Run.attempt_eq (readText_of_undecodable hfile hdecode))]
    rfl
  have hpass : passThrough a (.file value) m = (.error fault.failure, m) := by
    rw [passThrough, if_neg (by rw [hjson]; exact Bool.false_ne_true)]
    exact Run.bind_of_error hread _
  rw [run, if_neg hforms]
  exact (Run.bind_of_ok hdirect _).trans hpass

theorem ingestFile_of_undecodable {request : SourceRequest}
    (hinput : Text.trim request.input = value) (hvalue : value ≠ "") :
    Source.ingestFile request m = (.error (unreadableFile value fault.failure.message), m) := by
  have hempty : value.isEmpty = false := by simpa using hvalue
  have hread : Source.readInput ("input file \"" ++ value ++ "\"") (Path.ofString value) m =
      (.error (Source.unreadable ("input file \"" ++ value ++ "\"") fault.failure), m) := by
    rw [Source.readInput, Run.bind_of_ok (Run.attempt_eq (readText_of_undecodable hfile hdecode))]
    rfl
  rw [unreadable_undecodable] at hread
  rw [Source.ingestFile]
  simp only [hinput, hempty, Bool.false_eq_true, if_false]
  exact Run.bind_of_error hread _

/-- The same octets in a file that is read as a document are a failure of the source. -/
theorem run_of_file {loaded : Option Path} (hforms : ¬1 < a.formFlags.count true)
    (hsource : a.source = some .file) (hinput : inputValue a = value) (hvalue : value ≠ "")
    (hload : EnvFile.loadNearest ⟨1, FileSystem.workPlace⟩ m = (.ok loaded, m')) :
    run a m = (.error (unreadableFile value fault.failure.message), m') := by
  have hkept : m'.files = m.files := by
    have heffects : m'.effects = m.effects := by
      simpa only [hload] using keeps_loadNearest ⟨1, FileSystem.workPlace⟩ m
    exact congrArg (·.1.1) heffects
  have htrim : Text.trim value = value := by rw [← hinput, inputValue, Text.trim_trim]
  rw [← hkept] at hfile
  exact run_of_ingestFile hforms hsource hinput hvalue hload
    (ingestFile_of_undecodable hfile hdecode htrim hvalue)

end Undecodable

/-! ## Runs -/

/-- Octets that are no text end a run without a code when they stand in a file of ready Mermaid
text, and nothing is done before; they are reported when the file is a source. Like every run of
accepted words, such a run ends with code 0, with code 1 after a line, or without a code. -/
theorem main_undecodable (hwords : Arguments.parse words = .ok a)
    (hforms : ¬1 < a.formFlags.count true)
    (hfile : m.files.contents (Path.ofString value) = .ok (.raw octets))
    (hdecode : Text.decode octets = .error fault) :
    ((∃ m', main words m = (.code 0, m')) ∨ Reports words m ∨ Escapes words m) ∧
    (a.json = false → direct? a m = (.ok (some (.file value)), m) →
      main words m = (.failed fault.failure, m)) ∧
    ∀ loaded m', a.source = some .file → inputValue a = value → value ≠ "" →
      EnvFile.loadNearest ⟨1, FileSystem.workPlace⟩ m = (.ok loaded, m') →
      main words m = (.code 1, m'.noted ("Error: " ++
        ("Failed to read input file \"" ++ value ++ "\": " ++ fault.failure.message))) := by
  refine ⟨ends_of_parse hwords m, fun hjson hdirect => ?_, ?_⟩
  · exact main_of_foreign hwords (run_of_direct hfile hdecode hforms hjson hdirect) rfl
  · intro loaded m' hsource hinput hvalue hload
    have hrun := run_of_file hfile hdecode hforms hsource hinput hvalue hload
    have hown : (unreadableFile value fault.failure.message).isOwn = true := rfl
    simpa only [unreadableFile, sourceFault] using main_of_own hwords hrun hown

/-- A file with the extension of Mermaid text holds an octet that starts no character. -/
def octetMachine : Machine :=
  { files := ⟨[(FileSystem.workPlace ++ ["a.mmd"], .file (.raw [0xFF]))]⟩ }

/-- The octet as it is found. -/
def octetFault : Text.Utf8Error := ⟨0, [0xFF], .badStart⟩

theorem main_undecodable_octetMachine :
    octetMachine.files.contents (Path.ofString "a.mmd") = .ok (.raw [0xFF]) ∧
    Text.decode [0xFF] = .error octetFault ∧
    main ["a.mmd"] octetMachine = (.failed octetFault.failure, octetMachine) ∧
    ∃ m' : Machine, main ["--source", "file", "a.mmd"] octetMachine =
      (.code 1, m'.noted ("Error: " ++
        ("Failed to read input file \"" ++ "a.mmd" ++ "\": " ++ octetFault.failure.message))) := by
  have hfile : octetMachine.files.contents (Path.ofString "a.mmd") = .ok (.raw [0xFF]) := by
    decide +kernel
  have hdecode : Text.decode [0xFF] = .error octetFault := by decide
  have hwords : Arguments.parse ["a.mmd"] = .ok { input := some "a.mmd" } := rfl
  have hwords' : Arguments.parse ["--source", "file", "a.mmd"] =
      .ok { input := some "a.mmd", source := some .file } := rfl
  have hinput : ∀ a : Arguments, a.input = some "a.mmd" → inputValue a = "a.mmd" := by
    intro a ha
    rw [inputValue, ha]
    decide +kernel
  obtain ⟨-, hdirect, -⟩ := main_undecodable hwords (by decide) hfile hdecode
  obtain ⟨-, -, hsource⟩ := main_undecodable hwords' (by decide) hfile hdecode
  have hpasses : direct? { input := some "a.mmd" } octetMachine =
      (.ok (some (.file "a.mmd")), octetMachine) := by
    have hget : (get : Run Machine) octetMachine = (.ok octetMachine, octetMachine) := rfl
    rw [direct?, Run.bind_of_ok hget, hinput _ rfl]
    rfl
  have hload : ∃ loaded m', EnvFile.loadNearest ⟨1, FileSystem.workPlace⟩ octetMachine =
      (.ok loaded, m') := ⟨_, _, rfl⟩
  obtain ⟨loaded, m', hload⟩ := hload
  exact ⟨hfile, hdecode, hdirect rfl hpasses,
    m', hsource loaded m' rfl (hinput _ rfl) (by decide) hload⟩

/-- The failure to decode such a file is not reported, though the words are accepted. -/
theorem octetMachine_escapes :
    (∃ a, Arguments.parse ["a.mmd"] = .ok a) ∧ ∀ n, (main ["a.mmd"] octetMachine).1 ≠ .code n := by
  refine ⟨⟨{ input := some "a.mmd" }, rfl⟩, fun n h => ?_⟩
  have hending : (main ["a.mmd"] octetMachine).1 = .failed ⟨.undecodable,
      "'utf-8' codec can't decode byte 0xff in position 0: invalid start byte"⟩ := by
    decide +kernel
  exact absurd (hending.symm.trans h) nofun

end FlowBoard.Cli
