import FlowBoard.Json.Writer
import FlowBoard.Machine.Basic

/-!
# Raster images

The external rasterizer turns a flowchart into an image. It is given the flowchart, and the
configuration unless that is empty, in temporary files. A file is recorded once it is written, and
those that are recorded are removed however the run ends.
-/

namespace FlowBoard

inductive ImageFormat
  | png
  | svg
deriving DecidableEq, Repr

namespace ImageFormat

def name : ImageFormat → String
  | .png => "png"
  | .svg => "svg"

/-- The name as it stands in messages. -/
def title : ImageFormat → String
  | .png => "PNG"
  | .svg => "SVG"

def all : List ImageFormat := [.png, .svg]

def ofName? (name : String) : Option ImageFormat := all.find? (·.name == name)

end ImageFormat

namespace Raster

/-- The temporary file that holds the flowchart; the name stands for one that no file has yet. -/
def inputFile : String := "<input.mmd>"

/-- The temporary file that holds the configuration, under a name that is new as well. -/
def configFile : String := "<config.config.json>"

/-- The command of a run; an empty configuration path counts as none. -/
def command (input output format : String) (config : Option String) : List String :=
  ["mmdc", "-i", input, "-o", output, "-e", format, "-b", "transparent"] ++
    match config.filter (!·.isEmpty) with
    | some path => ["-c", path]
    | none => []

def isEmptyConfig : Json → Bool
  | .obj [] | .null => true
  | _ => false

/-! ## Temporary files -/

/-- A temporary file that is to be made: its text, or why that cannot be written. -/
structure Draft where
  name : String
  text : Except Failure String

/-- The files for a flowchart and its configuration. -/
def drafts (lone : Text.StandIns) (mermaid : String) (config : Option Json) : List Draft :=
  ⟨inputFile, lone.coded (mermaid ++ "\n")⟩ ::
    (config.map fun v => ⟨configFile, v.dump lone⟩).toList

/-- What is written of a file on a machine, or why it cannot be. -/
def Draft.written (draft : Draft) (m : Machine) : Except Failure String :=
  match Keyed.find? draft.name m.tempFaults with
  | some fault => .error fault.failure
  | none => draft.text

/-- Makes a file and writes it. How much of a text a failing write leaves is not modelled: the file
counts as empty. -/
def addTemp (draft : Draft) : Run Unit := do
  let written := draft.written (← get)
  modify fun m => { m with temps := Keyed.put draft.name (written.toOption.getD "") m.temps }
  Run.ofExcept (written.map fun _ => ())

/-- Makes files in turn, up to the first that cannot be written. Only those before it are
recorded. -/
def addTemps : List Draft → Run (List String × Except Failure Unit)
  | [] => return ([], .ok ())
  | draft :: rest => do
    match ← Run.attempt (addTemp draft) with
    | .error e => return ([], .error e)
    | .ok () =>
      let (recorded, result) ← addTemps rest
      return (draft.name :: recorded, result)

def dropTemps (names : List String) : Run Unit :=
  modify fun m => { m with temps := m.temps.filter fun temp => !names.contains temp.1 }

/-! ## The rasterizer -/

def hasNull (word : String) : Bool := word.toList.contains (Char.ofNat 0)

def embeddedNull : Failure := ⟨.wrongValue, "embedded null byte"⟩

/-- Starts the rasterizer on the temporary files. -/
def start (command : List String) (timeout : Number) : Run RasterOutcome := do
  if command.any hasNull then throw embeddedNull
  let m ← get
  let call : RasterCall :=
    { command
      input := (Keyed.find? inputFile m.temps).getD ""
      config := Keyed.find? configFile m.temps
      timeout }
  modify fun m => { m with calls := m.calls ++ [call] }
  if m.rasterizer.eatsInput then dropTemps [inputFile]
  return m.rasterizer.outcome

def fault (message : String) : Failure := ⟨.render, message⟩

def notFound : String :=
  "mmdc (mermaid-cli) not found. Install it with: npm i -g @mermaid-js/mermaid-cli"

/-- The most that is shown of what the rasterizer says. -/
def detailLimit : Nat := 500

/-- What the rasterizer says of its failure. -/
def detail (stdout stderr : String) : String :=
  Text.onChars (fun cs => (Text.trimChars cs).take detailLimit)
    (Text.orElse stderr (Text.orElse stdout "Unknown error"))

/-- The rasterizer succeeds if it ends in time with code zero and with texts. -/
def judge (format : ImageFormat) (timeout : Number) : RasterOutcome → Except Failure Unit
  | .missing => .error (fault notFound)
  | .refused code message => .error ⟨.fileSystem code, message⟩
  | .garbled _ e => .error e.failure
  | .timesOut => .error (fault (format.title ++ " rendering timed out after " ++
      String.ofList (timeout.text "inf".toList "nan".toList) ++ "s"))
  | .exits code stdout stderr =>
    if code = 0 then .ok ()
    else .error (fault (format.title ++ " rendering failed: " ++ detail stdout stderr))

/-- Runs the rasterizer on the temporary files that were written. -/
def convert (output : String) (format : ImageFormat) (config : Option Json) (timeout : Number) :
    Run Unit := do
  let files ← Run.ofExcept ((← get).files.makeDirectories (Path.ofString output).parent)
  modify fun m => { m with files }
  let outcome ← start
    (command inputFile output format.name (config.map fun _ => configFile)) timeout
  Run.ofExcept (judge format timeout outcome)

/-- The limit of time in seconds. -/
def defaultTimeout : Number := .whole 120

/-- Hands a flowchart and a configuration, which may have stand-ins, to the rasterizer, which writes
the image. -/
def renderWith (lone : Text.StandIns) (mermaid output format : String) (config : Option Json)
    (timeout : Number) : Run Unit := do
  match ImageFormat.ofName? format with
  | none => throw (fault ("Unsupported raster format: " ++ format))
  | some format =>
    let config := config.filter (!isEmptyConfig ·)
    let (recorded, written) ← addTemps (drafts lone mermaid config)
    let result ← Run.attempt do
      Run.ofExcept written
      convert output format config timeout
    dropTemps recorded
    Run.ofExcept result

/-- Hands over what has no stand-ins. -/
def render (mermaid output format : String) (config : Option Json) (timeout : Number) : Run Unit :=
  renderWith {} mermaid output format config timeout

end Raster

end FlowBoard
