import FlowBoard.Proofs.Json.Reread
import FlowBoard.Proofs.Machine.Directories
import FlowBoard.Proofs.Machine.Outcome
import FlowBoard.Proofs.Text.StandIns
import FlowBoard.Raster

/-!
# Runs of the rasterizer

However a run ends, the temporary files that it recorded are gone after it. A file is recorded only
once it is written, so one that cannot be written is left; if each can, nothing is. The rasterizer
is reached just when the format is one of those that are known, the files can be written, the
directory of the output is there or can be made, and its path can be passed on. Then it is started
once, and the run succeeds if it ends with code zero.
-/

namespace FlowBoard

namespace ImageFormat

/-- The formats that are known by a name. -/
def IsName (name : String) : Prop := name = "png" ∨ name = "svg"

theorem ofName?_name (format : ImageFormat) : ofName? format.name = some format := by
  cases format <;> rfl

theorem ofName?_of_not_isName {name : String} (h : ¬IsName name) : ofName? name = none := by
  rw [IsName, not_or] at h
  simp [ofName?, all, ImageFormat.name, Ne.symm h.1, Ne.symm h.2]

theorem IsName.exists_name {name : String} (h : IsName name) :
    ∃ format : ImageFormat, name = format.name := by
  rcases h with rfl | rfl
  · exact ⟨.png, rfl⟩
  · exact ⟨.svg, rfl⟩

theorem isName_name (format : ImageFormat) : IsName format.name := by
  cases format
  · exact .inl rfl
  · exact .inr rfl

end ImageFormat

namespace Machine

/-- The machine with a temporary file. -/
def withTemp (m : Machine) (name text : String) : Machine :=
  { m with temps := Keyed.put name text m.temps }

/-- The machine without the temporary files of some names. -/
def withoutTemps (m : Machine) (names : List String) : Machine :=
  { m with temps := m.temps.filter fun temp => !names.contains temp.1 }

def withFiles (m : Machine) (files : FileSystem) : Machine := { m with files }

end Machine

namespace Raster

variable {lone : Text.StandIns} {mermaid output : String} {format : ImageFormat}
  {config : Option Json} {timeout : Number} {m m' : Machine}

/-! ## Temporary files -/

theorem Draft.written_eq_ok_iff {draft : Draft} {text : String} : draft.written m = .ok text ↔
    Keyed.find? draft.name m.tempFaults = none ∧ draft.text = .ok text := by
  rw [Draft.written]
  cases Keyed.find? draft.name m.tempFaults <;> simp

@[simp] theorem Draft.written_withTemp (draft : Draft) (m : Machine) (name text : String) :
    draft.written (m.withTemp name text) = draft.written m := rfl

/-- What becomes of a machine on which files are made, with those that are recorded. -/
inductive Makes : List Draft → Machine → List String → Except Failure Unit → Machine → Prop
  | done {m : Machine} : Makes [] m [] (.ok ()) m
  | stopped {draft : Draft} {rest : List Draft} {m : Machine} {e : Failure}
      (hdraft : draft.written m = .error e) :
      Makes (draft :: rest) m [] (.error e) (m.withTemp draft.name "")
  | written {draft : Draft} {rest : List Draft} {m m' : Machine} {recorded : List String}
      {result : Except Failure Unit} {text : String} (hdraft : draft.written m = .ok text)
      (hrest : Makes rest (m.withTemp draft.name text) recorded result m') :
      Makes (draft :: rest) m (draft.name :: recorded) result m'

theorem addTemp_eq (draft : Draft) (m : Machine) : addTemp draft m =
    ((draft.written m).map fun _ => (),
      m.withTemp draft.name ((draft.written m).toOption.getD "")) := rfl

theorem addTemp_of_ok {draft : Draft} {text : String} (h : draft.written m = .ok text) :
    addTemp draft m = (.ok (), m.withTemp draft.name text) := by
  rw [addTemp_eq, h]
  rfl

theorem addTemp_of_error {draft : Draft} {e : Failure} (h : draft.written m = .error e) :
    addTemp draft m = (.error e, m.withTemp draft.name "") := by
  rw [addTemp_eq, h]
  rfl

theorem exists_makes (files : List Draft) (m : Machine) : ∃ recorded result m',
    addTemps files m = (.ok (recorded, result), m') ∧ Makes files m recorded result m' := by
  induction files generalizing m with
  | nil => exact ⟨[], .ok (), m, rfl, .done⟩
  | cons draft rest ih =>
    cases hdraft : draft.written m with
    | error e =>
      refine ⟨[], .error e, _, ?_, .stopped hdraft⟩
      rw [addTemps, Run.bind_of_ok (Run.attempt_eq (addTemp_of_error hdraft))]
      rfl
    | ok text =>
      obtain ⟨recorded, result, m', hrest, hmakes⟩ := ih (m.withTemp draft.name text)
      refine ⟨draft.name :: recorded, result, m', ?_, .written hdraft hmakes⟩
      rw [addTemps, Run.bind_of_ok (Run.attempt_eq (addTemp_of_ok hdraft))]
      exact Run.bind_of_ok hrest _

namespace Makes

variable {files : List Draft} {recorded : List String} {result : Except Failure Unit}

/-- Nothing but the temporary files changes. -/
theorem eq_with_temps (h : Makes files m recorded result m') :
    m' = { m with temps := m'.temps } := by
  induction h with
  | done => rfl
  | stopped _ => rfl
  | written _ _ ih => exact ih

/-- Temporary files of other names stay as they are. -/
theorem filter_temps (h : Makes files m recorded result m') {p : String → Bool}
    (hp : ∀ draft ∈ files, p draft.name = false) :
    m'.temps.filter (p ·.1) = m.temps.filter (p ·.1) := by
  induction h with
  | done => rfl
  | stopped _ => exact Keyed.filter_put p (hp _ List.mem_cons_self) _ _
  | written _ _ ih =>
    rw [ih fun draft hdraft => hp draft (List.mem_cons_of_mem _ hdraft)]
    exact Keyed.filter_put p (hp _ List.mem_cons_self) _ _

theorem find?_of_not_mem (h : Makes files m recorded result m') {name : String}
    (hname : name ∉ files.map Draft.name) :
    Keyed.find? name m'.temps = Keyed.find? name m.temps := by
  induction h with
  | done => rfl
  | stopped _ =>
    rw [List.map_cons, List.mem_cons, not_or] at hname
    exact (Keyed.find?_put _ _ _ _).trans (if_neg (Ne.symm hname.1))
  | written _ _ ih =>
    rw [List.map_cons, List.mem_cons, not_or] at hname
    exact (ih hname.2).trans ((Keyed.find?_put _ _ _ _).trans (if_neg (Ne.symm hname.1)))

theorem recorded_sublist (h : Makes files m recorded result m') :
    recorded.Sublist (files.map Draft.name) := by
  induction h with
  | done => exact .slnil
  | stopped _ => exact List.nil_sublist _
  | written _ _ ih => exact ih.cons_cons _

/-- If all goes well, every file is recorded. -/
theorem recorded_eq (h : Makes files m recorded result m') (hok : result = .ok ()) :
    recorded = files.map Draft.name := by
  induction h with
  | done => rfl
  | stopped _ => cases hok
  | written _ _ ih => rw [ih hok, List.map_cons]

theorem result_eq_ok_iff (h : Makes files m recorded result m') :
    result = .ok () ↔ ∀ draft ∈ files, ∃ text, draft.written m = .ok text := by
  induction h with
  | done => simp
  | stopped hdraft => simp [hdraft]
  | written hdraft _ ih => simp [hdraft, ih]

/-- A file that was written holds its text. -/
theorem find?_of_ok (h : Makes files m recorded result m') (hnodup : (files.map Draft.name).Nodup)
    (hok : result = .ok ()) {draft : Draft} (hmem : draft ∈ files) {text : String}
    (hdraft : draft.written m = .ok text) : Keyed.find? draft.name m'.temps = some text := by
  induction h with
  | done => cases hmem
  | stopped _ => cases hok
  | written hfirst hrest ih =>
    rw [List.map_cons, List.nodup_cons] at hnodup
    rcases List.mem_cons.mp hmem with rfl | hmem
    · obtain rfl := Except.ok.inj (hfirst.symm.trans hdraft)
      rw [hrest.find?_of_not_mem hnodup.1]
      exact (Keyed.find?_put _ _ _ _).trans (if_pos rfl)
    · exact ih hnodup.2 hok hmem hdraft

/-- A file that could not be written is there and is not recorded. -/
theorem exists_unwritten (h : Makes files m recorded result m')
    (hnodup : (files.map Draft.name).Nodup) {e : Failure} (herror : result = .error e) :
    ∃ draft ∈ files, draft.written m = .error e ∧ Keyed.find? draft.name m'.temps = some "" ∧
      draft.name ∉ recorded := by
  induction h with
  | done => cases herror
  | stopped hdraft =>
    obtain rfl := Except.error.inj herror
    exact ⟨_, List.mem_cons_self, hdraft, (Keyed.find?_put _ _ _ _).trans (if_pos rfl),
      List.not_mem_nil⟩
  | written _ hrest ih =>
    rw [List.map_cons, List.nodup_cons] at hnodup
    obtain ⟨draft, hmem, hdraft, hfound, hnew⟩ := ih hnodup.2 herror
    refine ⟨draft, List.mem_cons_of_mem _ hmem, hdraft, hfound, ?_⟩
    rw [List.mem_cons, not_or]
    refine ⟨?_, hnew⟩
    intro heq
    exact hnodup.1 (heq ▸ List.mem_map_of_mem hmem)

end Makes

theorem drafts_none (lone : Text.StandIns) (mermaid : String) :
    drafts lone mermaid none = [⟨inputFile, lone.coded (mermaid ++ "\n")⟩] := rfl

theorem drafts_some (lone : Text.StandIns) (mermaid : String) (v : Json) :
    drafts lone mermaid (some v) =
      [⟨inputFile, lone.coded (mermaid ++ "\n")⟩, ⟨configFile, v.dump lone⟩] := rfl

/-- The temporary files of a run. -/
def ours : List String := [inputFile, configFile]

theorem names_drafts_sublist (lone : Text.StandIns) (mermaid : String) (config : Option Json) :
    ((drafts lone mermaid config).map Draft.name).Sublist ours := by
  cases config with
  | none => exact List.Sublist.cons_cons _ (List.nil_sublist _)
  | some v => exact List.Sublist.refl _

theorem nodup_names_drafts (lone : Text.StandIns) (mermaid : String) (config : Option Json) :
    ((drafts lone mermaid config).map Draft.name).Nodup := by
  have hnodup : ours.Nodup := by decide
  exact (names_drafts_sublist lone mermaid config).nodup hnodup

/-- The temporary files that are not those of a run. -/
def others (m : Machine) : Keyed String String := (m.withoutTemps ours).temps

theorem Makes.others_eq {recorded : List String} {result : Except Failure Unit}
    (h : Makes (drafts lone mermaid config) m recorded result m') : others m' = others m := by
  refine h.filter_temps (p := fun name => !ours.contains name) fun draft hdraft => ?_
  have hours := (names_drafts_sublist lone mermaid config).subset (List.mem_map_of_mem hdraft)
  rw [List.contains_iff_mem.mpr hours, Bool.not_true]

/-! ## The rasterizer -/

/-- The call that a machine makes with its temporary files. -/
def callOf (m : Machine) (command : List String) (timeout : Number) : RasterCall where
  command
  input := (Keyed.find? inputFile m.temps).getD ""
  config := Keyed.find? configFile m.temps
  timeout

/-- The machine after the rasterizer was started. -/
def started (m : Machine) (command : List String) (timeout : Number) : Machine :=
  let m' := { m with calls := m.calls ++ [callOf m command timeout] }
  if m.rasterizer.eatsInput then m'.withoutTemps [inputFile] else m'

@[simp] theorem files_started (m : Machine) (command : List String) (timeout : Number) :
    (started m command timeout).files = m.files := by
  rw [started]
  split_ifs <;> rfl

@[simp] theorem calls_started (m : Machine) (command : List String) (timeout : Number) :
    (started m command timeout).calls = m.calls ++ [callOf m command timeout] := by
  rw [started]
  split_ifs <;> rfl

theorem temps_started_sublist (m : Machine) (command : List String) (timeout : Number) :
    (started m command timeout).temps.Sublist m.temps := by
  rw [started]
  split_ifs
  · exact List.filter_sublist
  · exact List.Sublist.refl _

theorem others_started (m : Machine) (command : List String) (timeout : Number) :
    others (started m command timeout) = others m := by
  rw [started]
  split_ifs
  · refine List.filter_filter.trans (List.filter_congr fun temp _ => ?_)
    by_cases hinput : temp.1 = inputFile <;> simp [ours, hinput]
  · rfl

theorem start_of_null {command : List String} (h : command.any hasNull = true) (m : Machine) :
    start command timeout m = (.error embeddedNull, m) := by
  rw [start, if_pos h]
  rfl

theorem start_of_plain {command : List String} (h : command.any hasNull = false) (m : Machine) :
    start command timeout m = (.ok m.rasterizer.outcome, started m command timeout) := by
  obtain ⟨files, env, stdin, replies, rasterizer, faults, stdout, stderr, requests, calls,
    temps⟩ := m
  obtain ⟨outcome, eats⟩ := rasterizer
  rw [start, h, if_neg Bool.false_ne_true]
  cases eats <;> rfl

/-- Of the words of a command only the output may have a null character. -/
theorem any_hasNull_command (output : String) (format : ImageFormat) (config : Option Json) :
    (command inputFile output format.name (config.map fun _ => configFile)).any hasNull =
      hasNull output := by
  have hplain : (["mmdc", "-i", inputFile, "-o", "-e", format.name, "-b", "transparent", "-c",
      configFile].any hasNull) = false := by
    cases format <;> decide
  simp only [List.any_cons, List.any_nil, Bool.or_eq_false_iff, Bool.or_false] at hplain
  have hpath : (some configFile).filter (!·.isEmpty) = some configFile := by decide
  cases config with
  | none => simp [command, hplain]
  | some v => simp [command, hpath, hplain]

/-- What is done once the temporary files are made. -/
def afterwards (written : Except Failure Unit) (output : String) (format : ImageFormat)
    (config : Option Json) (timeout : Number) : Run Unit := do
  Run.ofExcept written
  convert output format config timeout

theorem afterwards_ok (u : Unit) (output : String) (format : ImageFormat) (config : Option Json)
    (timeout : Number) :
    afterwards (.ok u) output format config timeout = convert output format config timeout := rfl

theorem convert_of_error (format : ImageFormat) (config : Option Json) (timeout : Number)
    {e : Failure} (h : m.files.makeDirectories (Path.ofString output).parent = .error e) :
    convert output format config timeout m = (.error e, m) := by
  have hget : (get : Run Machine) m = (.ok m, m) := rfl
  have hmake : Run.ofExcept (m.files.makeDirectories (Path.ofString output).parent) m =
      (.error e, m) := by rw [h]; rfl
  rw [convert, Run.bind_of_ok hget, Run.bind_of_error hmake]

/-- The directory is made before the rasterizer is started. -/
theorem convert_of_ok (format : ImageFormat) (config : Option Json) (timeout : Number)
    {files : FileSystem}
    (h : m.files.makeDirectories (Path.ofString output).parent = .ok files) :
    convert output format config timeout m =
      if hasNull output then (.error embeddedNull, m.withFiles files)
      else (judge format timeout m.rasterizer.outcome, started (m.withFiles files)
        (command inputFile output format.name (config.map fun _ => configFile)) timeout) := by
  have hget : (get : Run Machine) m = (.ok m, m) := rfl
  have hmake : Run.ofExcept (m.files.makeDirectories (Path.ofString output).parent) m =
      (.ok files, m) := by rw [h]; rfl
  have hfiles : (modify fun m => { m with files } : Run Unit) m =
      (.ok (), m.withFiles files) := rfl
  have hcommand := any_hasNull_command output format config
  rw [convert, Run.bind_of_ok hget, Run.bind_of_ok hmake, Run.bind_of_ok hfiles]
  split_ifs with hnull
  · exact Run.bind_of_error (start_of_null (hcommand.trans hnull) _) _
  · rw [Bool.not_eq_true] at hnull
    rw [Run.bind_of_ok (start_of_plain (hcommand.trans hnull) _)]
    rfl

/-- A format that is not known is refused at once. -/
theorem renderWith_of_not_isName {name : String} (h : ¬ImageFormat.IsName name)
    (config : Option Json) : renderWith lone mermaid output name config timeout m =
      (.error (fault ("Unsupported raster format: " ++ name)), m) := by
  rw [renderWith, ImageFormat.ofName?_of_not_isName h]
  rfl

/-- The recorded files are dropped however the run goes on. -/
theorem exists_renderWith (lone : Text.StandIns) (mermaid output : String) (format : ImageFormat)
    (config : Option Json) (timeout : Number) (m : Machine) :
    ∃ recorded result m', Makes (drafts lone mermaid (config.filter (!isEmptyConfig ·))) m
        recorded result m' ∧
      renderWith lone mermaid output format.name config timeout m =
        let r := afterwards result output format (config.filter (!isEmptyConfig ·)) timeout m'
        (r.1, r.2.withoutTemps recorded) := by
  obtain ⟨recorded, result, m', hadd, hmakes⟩ :=
    exists_makes (drafts lone mermaid (config.filter (!isEmptyConfig ·))) m
  refine ⟨recorded, result, m', hmakes, ?_⟩
  rw [renderWith, ImageFormat.ofName?_name]
  exact Run.bind_of_ok hadd _

/-! ## Whole runs -/

/-- The text has no half of a pair, no number of the configuration is too long, and nothing stops
the writing of the files that are made. -/
structure Writable (lone : Text.StandIns) (mermaid : String) (fields : Json.Fields) (m : Machine) :
    Prop where
  text : ∀ c ∈ mermaid.toList, lone.isStandIn c = false
  numbers : (Json.obj fields).anyNumber Json.isOverlong = false
  input : Keyed.find? inputFile m.tempFaults = none
  config : fields ≠ [] → Keyed.find? configFile m.tempFaults = none

/-- The directory of an output is there, or can be made. -/
def CanHold (fs : FileSystem) (output : String) : Prop :=
  ∃ fs', fs.AddsDirectories fs' ∧ fs'.isDirectory (Path.ofString output).parent = true

/-- All that a run needs up to the start of the rasterizer. -/
structure Reaches (lone : Text.StandIns) (mermaid output format : String) (fields : Json.Fields)
    (m : Machine) : Prop where
  format : ImageFormat.IsName format
  writable : Writable lone mermaid fields m
  holds : CanHold m.files output
  plain : hasNull output = false

/-- The rasterizer ends by itself, with code zero. -/
def EndsWell (rasterizer : Rasterizer) : Prop :=
  ∃ stdout stderr, rasterizer.outcome = .exits 0 stdout stderr

/-- The rasterizer is missing, or takes too long, or ends with another code. -/
def EndsBadly (rasterizer : Rasterizer) : Prop :=
  rasterizer.outcome = .missing ∨ rasterizer.outcome = .timesOut ∨
    ∃ code stdout stderr, rasterizer.outcome = .exits code stdout stderr ∧ code ≠ 0

/-- A call that hands over the text and, unless there is nothing in it, the configuration. -/
structure IsCall (lone : Text.StandIns) (mermaid output format : String) (fields : Json.Fields)
    (timeout : Number) (call : RasterCall) : Prop where
  command : call.command =
    ["mmdc", "-i", inputFile, "-o", output, "-e", format, "-b", "transparent"] ++
      if fields = [] then [] else ["-c", configFile]
  input : call.input = mermaid ++ "\n"
  timeout : call.timeout = timeout
  config : fields ≠ [] → ∃ text, call.config = some text ∧
    text = (Json.obj fields).compact lone ++ "\n" ∧
      ((Json.obj fields).Readable → (Json.obj fields).anyChar lone.isStandIn = false →
        Json.read text = .ok (.obj fields))

/-- What a run gives and what it leaves; `fields` are those of the configuration. -/
structure RunsOnce (lone : Text.StandIns) (mermaid output format : String) (fields : Json.Fields)
    (timeout : Number) (m : Machine) (r : Except Failure Unit × Machine) : Prop where
  unsupported : ¬ImageFormat.IsName format →
    r = (.error (fault ("Unsupported raster format: " ++ format)), m)
  temps : (ImageFormat.IsName format → Writable lone mermaid fields m) →
    r.2.temps.Sublist m.temps
  left : ImageFormat.IsName format → ¬Writable lone mermaid fields m →
    r.2.files = m.files ∧ r.2.calls = m.calls ∧ ∃ name ∈ ours, ∃ text e,
      Keyed.find? name r.2.temps = some text ∧ r.1 = .error e ∧ e.isOwn = false
  kept : ∀ temp ∈ m.temps, temp.1 ∉ ours → temp ∈ r.2.temps
  succeeds : r.1 = .ok () ↔
    Reaches lone mermaid output format fields m ∧ EndsWell m.rasterizer
  blocked : ImageFormat.IsName format → Writable lone mermaid fields m → ¬CanHold m.files output →
    r.2.files = m.files ∧ r.2.calls = m.calls ∧ ∃ e, r.1 = .error e ∧ FileSystem.IsFault e
  refused : ImageFormat.IsName format → Writable lone mermaid fields m → CanHold m.files output →
    hasNull output = true → r.2.calls = m.calls ∧ r.1 = .error embeddedNull
  called : Reaches lone mermaid output format fields m →
    ∃ call, r.2.calls = m.calls ++ [call] ∧ IsCall lone mermaid output format fields timeout call
  fails : Reaches lone mermaid output format fields m → EndsBadly m.rasterizer →
    ∃ message, r.1 = .error (fault message)
  directory : ImageFormat.IsName format → Writable lone mermaid fields m → CanHold m.files output →
    m.files.AddsDirectories r.2.files ∧
      r.2.files.isDirectory (Path.ofString output).parent = true

theorem judge_eq_ok_iff {outcome : RasterOutcome} : judge format timeout outcome = .ok () ↔
    ∃ stdout stderr, outcome = .exits 0 stdout stderr := by
  cases outcome with
  | exits code stdout stderr => simp [judge]
  | garbled code error => simp [judge]
  | missing => simp [judge]
  | refused code message => simp [judge]
  | timesOut => simp [judge]

/-- To miss the rasterizer, or to have it fail, is a failure of rendering. -/
theorem exists_fault_of_judge {rasterizer : Rasterizer} (h : EndsBadly rasterizer) :
    ∃ message, judge format timeout rasterizer.outcome = .error (fault message) := by
  rcases h with h | h | ⟨code, stdout, stderr, h, hcode⟩
  · exact ⟨_, by rw [h]; rfl⟩
  · exact ⟨_, by rw [h]; rfl⟩
  · exact ⟨_, by rw [h]; exact if_neg hcode⟩

theorem canHold_iff (fs : FileSystem) (output : String) : CanHold fs output ↔
    ∃ files, fs.makeDirectories (Path.ofString output).parent = .ok files :=
  (fs.makeDirectories_eq_ok_iff _).symm

/-- What is handed over of a configuration. -/
def handed (fields : Json.Fields) : Option Json := if fields = [] then none else some (.obj fields)

theorem filter_map_obj (config : Option Json.Fields) :
    (config.map Json.obj).filter (!isEmptyConfig ·) = handed (config.getD []) := by
  rcases config with _ | _ | ⟨field, fields⟩ <;> rfl

theorem coded_eq_ok_iff (lone : Text.StandIns) (mermaid : String) :
    (∃ text, lone.coded (mermaid ++ "\n") = .ok text) ↔
      ∀ c ∈ mermaid.toList, lone.isStandIn c = false := by
  have hfeed : lone.isStandIn '\n' = false := Text.StandIns.isStandIn_of_lt (by decide) lone
  simp only [Text.StandIns.coded_eq_ok_iff, exists_and_left, exists_eq, and_true,
    String.toList_append]
  constructor
  · exact fun h c hc => h c (List.mem_append_left _ hc)
  · intro h c hc
    rcases List.mem_append.mp hc with hc | hc
    · exact h c hc
    · obtain rfl : c = '\n' := List.mem_singleton.mp hc
      exact hfeed

theorem dump_eq_ok_iff (lone : Text.StandIns) (v : Json) :
    (∃ text, v.dump lone = .ok text) ↔ v.anyNumber Json.isOverlong = false := by
  rw [Json.dump]
  split_ifs with h <;> simp [h]

theorem exists_written_iff (draft : Draft) (m : Machine) : (∃ text, draft.written m = .ok text) ↔
    Keyed.find? draft.name m.tempFaults = none ∧ ∃ text, draft.text = .ok text := by
  simp only [Draft.written_eq_ok_iff, exists_and_left]

/-- The files can be written if their texts can and nothing stops it. -/
theorem writable_iff (lone : Text.StandIns) (mermaid : String) (fields : Json.Fields)
    (m : Machine) : Writable lone mermaid fields m ↔
      ∀ draft ∈ drafts lone mermaid (handed fields), ∃ text, draft.written m = .ok text := by
  rw [handed]
  split_ifs with hfields
  · subst hfields
    rw [drafts_none, List.forall_mem_singleton, exists_written_iff, coded_eq_ok_iff]
    exact ⟨fun h => ⟨h.input, h.text⟩, fun h => ⟨h.2, rfl, h.1, fun hne => absurd rfl hne⟩⟩
  · rw [drafts_some, List.forall_mem_cons, List.forall_mem_singleton, exists_written_iff,
      exists_written_iff, coded_eq_ok_iff, dump_eq_ok_iff]
    constructor
    · exact fun h => ⟨⟨h.input, h.text⟩, h.config hfields, h.numbers⟩
    · rintro ⟨⟨hinput, htext⟩, hconfig, hnumbers⟩
      exact ⟨htext, hnumbers, hinput, fun _ => hconfig⟩

theorem isOwn_of_dump {v : Json} {e : Failure} (h : v.dump lone = .error e) : e.isOwn = false := by
  rw [Json.dump] at h
  split_ifs at h
  obtain rfl := Except.error.inj h
  rfl

/-- The writing of a file is stopped by the system, by the codec or by a number. -/
theorem isOwn_of_written {config : Option Json} {draft : Draft}
    (hdraft : draft ∈ drafts lone mermaid config) {e : Failure} (h : draft.written m = .error e) :
    e.isOwn = false := by
  rw [Draft.written] at h
  split at h
  case h_1 fault _ =>
    obtain rfl := Except.error.inj h
    rfl
  case h_2 =>
    cases config with
    | none =>
      obtain rfl := List.mem_singleton.mp hdraft
      exact Text.StandIns.isOwn_of_coded h
    | some v =>
      rcases List.mem_cons.mp hdraft with rfl | hdraft
      · exact Text.StandIns.isOwn_of_coded h
      · obtain rfl := List.mem_singleton.mp hdraft
        exact isOwn_of_dump h

section Runs

variable {format : String} {fields : Json.Fields}

theorem isCall_callOf {recorded : List String} {format : ImageFormat}
    (h : Makes (drafts lone mermaid (handed fields)) m recorded (.ok ()) m')
    (hwritable : Writable lone mermaid fields m) (files : FileSystem) (timeout : Number) :
    IsCall lone mermaid output format.name fields timeout
      (callOf (m'.withFiles files)
        (command inputFile output format.name ((handed fields).map fun _ => configFile))
        timeout) := by
  have hnodup := nodup_names_drafts lone mermaid (handed fields)
  have htext : lone.coded (mermaid ++ "\n") = .ok (mermaid ++ "\n") := by
    obtain ⟨text, htext⟩ := (coded_eq_ok_iff lone mermaid).mpr hwritable.text
    rwa [(Text.StandIns.coded_eq_ok_iff.mp htext).2] at htext
  have hinput : Keyed.find? inputFile m'.temps = some (mermaid ++ "\n") :=
    h.find?_of_ok hnodup rfl List.mem_cons_self
      (Draft.written_eq_ok_iff.mpr ⟨hwritable.input, htext⟩)
  by_cases hfields : fields = []
  · subst hfields
    constructor
    case command => rfl
    case input => exact congrArg (·.getD "") hinput
    case timeout => rfl
    case config => exact fun hne => absurd rfl hne
  · have hhanded : handed fields = some (.obj fields) := if_neg hfields
    have hdump : (Json.obj fields).dump lone = .ok ((Json.obj fields).compact lone ++ "\n") :=
      if_neg (by rw [hwritable.numbers]; exact Bool.false_ne_true)
    have hconfig : Keyed.find? configFile m'.temps =
        some ((Json.obj fields).compact lone ++ "\n") := by
      rw [hhanded] at h hnodup
      exact h.find?_of_ok hnodup rfl (List.mem_cons_of_mem _ List.mem_cons_self)
        (Draft.written_eq_ok_iff.mpr ⟨hwritable.config hfields, hdump⟩)
    rw [hhanded]
    constructor
    case command =>
      rw [if_neg hfields]
      rfl
    case input => exact congrArg (·.getD "") hinput
    case timeout => rfl
    case config =>
      refine fun _ => ⟨_, hconfig, rfl, fun hreadable hplain => ?_⟩
      rw [Json.read, String.toList_append, Json.compact, String.toList_ofList,
        Json.chars_of_anyChar .line hplain]
      exact hreadable.readChars_chars .line (List.forall_mem_singleton.mpr rfl)

theorem runsOnce_of_unsupported (h : ¬ImageFormat.IsName format) :
    RunsOnce lone mermaid output format fields timeout m
      (.error (fault ("Unsupported raster format: " ++ format)), m) where
  unsupported _ := rfl
  temps _ := List.Sublist.refl _
  left hname := absurd hname h
  kept _ htemp _ := htemp
  succeeds := ⟨nofun, fun hok => absurd hok.1.format h⟩
  blocked hname := absurd hname h
  refused hname := absurd hname h
  called hreaches := absurd hreaches.format h
  fails hreaches := absurd hreaches.format h
  directory hname := absurd hname h

/-- Dropping the recorded files leaves the others, on each machine that has them still. -/
theorem Makes.kept {recorded : List String} {result : Except Failure Unit} {machine : Machine}
    (h : Makes (drafts lone mermaid config) m recorded result m')
    (hothers : others machine = others m') {temp : String × String} (htemp : temp ∈ m.temps)
    (hother : temp.1 ∉ ours) : temp ∈ (machine.withoutTemps recorded).temps := by
  have hrecorded := h.recorded_sublist.trans (names_drafts_sublist lone mermaid config)
  have hmem : temp ∈ others m := List.mem_filter.mpr ⟨htemp, by simpa using hother⟩
  rw [← h.others_eq, ← hothers] at hmem
  refine List.mem_filter.mpr ⟨(List.mem_filter.mp hmem).1, ?_⟩
  have hnew : temp.1 ∉ recorded := fun hin => hother (hrecorded.subset hin)
  simpa using hnew

theorem Makes.writable {recorded : List String} {fields : Json.Fields}
    (h : Makes (drafts lone mermaid (handed fields)) m recorded (.ok ()) m') :
    Writable lone mermaid fields m :=
  (writable_iff _ _ _ _).mpr (h.result_eq_ok_iff.mp rfl)

/-- Dropping all files that were made leaves none of them. -/
theorem Makes.sublist_of_ok {recorded : List String} {machine : Machine}
    (h : Makes (drafts lone mermaid config) m recorded (.ok ()) m')
    (hmachine : machine.temps.Sublist m'.temps) :
    (machine.withoutTemps recorded).temps.Sublist m.temps := by
  have hrecorded := h.recorded_eq rfl
  have hfilter := h.filter_temps (p := fun name => !recorded.contains name) fun draft hdraft => by
    rw [hrecorded, List.contains_iff_mem.mpr (List.mem_map_of_mem hdraft), Bool.not_true]
  have hsublist : (machine.withoutTemps recorded).temps.Sublist
      (m'.temps.filter fun temp => !recorded.contains temp.1) := hmachine.filter _
  rw [hfilter] at hsublist
  exact hsublist.trans List.filter_sublist

/-- A run on which a file cannot be written. -/
theorem runsOnce_of_unwritten {recorded : List String} {format : ImageFormat} {e : Failure}
    (h : Makes (drafts lone mermaid (handed fields)) m recorded (.error e) m') :
    RunsOnce lone mermaid output format.name fields timeout m
      (.error e, m'.withoutTemps recorded) := by
  have hname := ImageFormat.isName_name format
  obtain ⟨draft, hmem, hdraft, hfound, hnew⟩ :=
    h.exists_unwritten (nodup_names_drafts lone mermaid (handed fields)) rfl
  have hunwritable : ¬Writable lone mermaid fields m := by
    rw [writable_iff]
    intro hall
    obtain ⟨text, htext⟩ := hall draft hmem
    rw [hdraft] at htext
    cases htext
  have hours : draft.name ∈ ours :=
    (names_drafts_sublist lone mermaid (handed fields)).subset (List.mem_map_of_mem hmem)
  have hleft : Keyed.find? draft.name (m'.withoutTemps recorded).temps = some "" :=
    (Keyed.find?_filter (p := fun name => !recorded.contains name) (by simpa using hnew) _).trans
      hfound
  have hframe := h.eq_with_temps
  exact {
    unsupported := fun hno => absurd hname hno
    temps := fun hwritable => absurd (hwritable hname) hunwritable
    left := fun _ _ => ⟨by rw [hframe]; rfl, by rw [hframe]; rfl, draft.name, hours, "", e, hleft,
      rfl, isOwn_of_written hmem hdraft⟩
    kept := fun _ htemp hother => h.kept rfl htemp hother
    succeeds := ⟨nofun, fun hok => absurd hok.1.writable hunwritable⟩
    blocked := fun _ hwritable => absurd hwritable hunwritable
    refused := fun _ hwritable => absurd hwritable hunwritable
    called := fun hreaches => absurd hreaches.writable hunwritable
    fails := fun hreaches => absurd hreaches.writable hunwritable
    directory := fun _ hwritable => absurd hwritable hunwritable }

theorem runsOnce_of_blocked {recorded : List String} {format : ImageFormat} {e : Failure}
    (h : Makes (drafts lone mermaid (handed fields)) m recorded (.ok ()) m')
    (hmade : m.files.makeDirectories (Path.ofString output).parent = .error e) :
    RunsOnce lone mermaid output format.name fields timeout m
      (.error e, m'.withoutTemps recorded) := by
  have hwritable := h.writable
  have hblocked : ¬CanHold m.files output := by
    rw [canHold_iff, hmade]
    simp
  have hfault : FileSystem.IsFault e := by
    have houtcome := m.files.faults_makeDirectories (Path.ofString output).parent
    rwa [hmade] at houtcome
  have hframe := h.eq_with_temps
  exact {
    unsupported := fun hno => absurd (ImageFormat.isName_name format) hno
    temps := fun _ => h.sublist_of_ok (List.Sublist.refl _)
    left := fun _ hno => absurd hwritable hno
    kept := fun _ htemp hother => h.kept rfl htemp hother
    succeeds := ⟨nofun, fun hok => absurd hok.1.holds hblocked⟩
    blocked := fun _ _ _ => ⟨by rw [hframe]; rfl, by rw [hframe]; rfl, e, rfl, hfault⟩
    refused := fun _ _ hhold => absurd hhold hblocked
    called := fun hreaches => absurd hreaches.holds hblocked
    fails := fun hreaches => absurd hreaches.holds hblocked
    directory := fun _ _ hhold => absurd hhold hblocked }

/-- A run on which the directory is there, but the path of the output cannot be passed on. -/
theorem runsOnce_of_refused {recorded : List String} {format : ImageFormat} {files : FileSystem}
    (h : Makes (drafts lone mermaid (handed fields)) m recorded (.ok ()) m')
    (hmade : m.files.makeDirectories (Path.ofString output).parent = .ok files)
    (hnull : hasNull output = true) :
    RunsOnce lone mermaid output format.name fields timeout m
      (.error embeddedNull, (m'.withFiles files).withoutTemps recorded) := by
  have hwritable := h.writable
  have hhold : CanHold m.files output := (canHold_iff _ _).mpr ⟨files, hmade⟩
  have hplain : ¬hasNull output = false := by simp [hnull]
  have hframe := h.eq_with_temps
  exact {
    unsupported := fun hno => absurd (ImageFormat.isName_name format) hno
    temps := fun _ => h.sublist_of_ok (List.Sublist.refl _)
    left := fun _ hno => absurd hwritable hno
    kept := fun _ htemp hother => h.kept rfl htemp hother
    succeeds := ⟨nofun, fun hok => absurd hok.1.plain hplain⟩
    blocked := fun _ _ hno => absurd hhold hno
    refused := fun _ _ _ _ => ⟨by rw [hframe]; rfl, rfl⟩
    called := fun hreaches => absurd hreaches.plain hplain
    fails := fun hreaches => absurd hreaches.plain hplain
    directory := fun _ _ _ => FileSystem.of_makeDirectoriesTo hmade }

theorem runsOnce_of_started {recorded : List String} {format : ImageFormat} {files : FileSystem}
    (h : Makes (drafts lone mermaid (handed fields)) m recorded (.ok ()) m')
    (hmade : m.files.makeDirectories (Path.ofString output).parent = .ok files)
    (hplain : hasNull output = false) :
    RunsOnce lone mermaid output format.name fields timeout m
      (judge format timeout m.rasterizer.outcome,
        (started (m'.withFiles files)
          (command inputFile output format.name ((handed fields).map fun _ => configFile))
          timeout).withoutTemps recorded) := by
  have hwritable := h.writable
  have hhold : CanHold m.files output := (canHold_iff _ _).mpr ⟨files, hmade⟩
  have hreaches : Reaches lone mermaid output format.name fields m :=
    ⟨ImageFormat.isName_name format, hwritable, hhold, hplain⟩
  have hcalls : m'.calls = m.calls := by
    rw [h.eq_with_temps]
  exact {
    unsupported := fun hno => absurd hreaches.format hno
    temps := fun _ => h.sublist_of_ok (temps_started_sublist _ _ _)
    left := fun _ hno => absurd hwritable hno
    kept := fun _ htemp hother => h.kept (others_started (m'.withFiles files) _ _) htemp hother
    succeeds := by
      rw [judge_eq_ok_iff]
      exact ⟨fun hends => ⟨hreaches, hends⟩, fun hok => hok.2⟩
    blocked := fun _ _ hno => absurd hhold hno
    refused := fun _ _ _ hnull => absurd hplain (by simp [hnull])
    called := fun _ => ⟨_, (calls_started _ _ _).trans (congrArg (· ++ _) hcalls),
      isCall_callOf h hwritable files timeout⟩
    fails := fun _ hends => exists_fault_of_judge hends
    directory := fun _ _ _ => by
      change m.files.AddsDirectories (started _ _ _).files ∧
        (started _ _ _).files.isDirectory _ = true
      rw [files_started]
      exact FileSystem.of_makeDirectoriesTo hmade }

/-- A file in place of the directory is in the way, and the format is seen before it is. -/
example :
    let m : Machine :=
      { files := ({} : FileSystem).place ["tmp", "work", "img"] (.file (.text "")) }
    (render "flowchart TD" "img/flow.png" "png" none defaultTimeout m).1 =
        .error (FileFault.alreadyExists.failure ⟨0, ["img"]⟩) ∧
      (render "flowchart TD" "img/flow.png" "gif" none defaultTimeout m).1 =
        .error (fault "Unsupported raster format: gif") := by
  decide +kernel

end Runs

end Raster

end FlowBoard
