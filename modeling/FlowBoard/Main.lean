import FlowBoard.Cli.Command

/-!
# The program

Runs the command on what the process is given: its arguments, the variables that the program
knows, standard input unless it is a terminal, the files that the arguments name and the nearest
environment file. Requests are not sent from here, and no rasterizer is started.
-/

namespace FlowBoard.Program

def knownVariables : List String :=
  [Settings.urlVariable, Settings.tokenVariable, Settings.timeoutVariable,
    Settings.boardTokenVariable]

def readVariables : IO (Keyed String String) :=
  knownVariables.filterMapM fun name => do
    return (← IO.getEnv name).map fun value => (name, value)

def readContents (path : String) : IO (Option Contents) := do
  try return some (.ofOctets (← IO.FS.readBinFile path).toList)
  catch _ => return none

def placeOf (path : Path) : Place := FileSystem.start path ++ path.parts

def addFile (files : FileSystem) (path : String) : IO FileSystem := do
  match ← readContents path with
  | some c => return files.place (placeOf (.ofString path)) (.file c)
  | none => return files

/-- The nearest environment file, at the working directory or so many levels above it. -/
def nearestEnvFile (levels : Nat) : IO (Option Contents) :=
  (List.range (levels + 1)).findSomeM? fun n =>
    readContents (String.join (List.replicate n "../") ++ EnvFile.fileName)

def readFiles (words : List String) : IO FileSystem := do
  let files ← words.foldlM (fun files word => addFile files (Text.trim word)) {}
  let directory := Path.ofString (← IO.currentDir).toString
  match ← nearestEnvFile directory.parts.length with
  | some c => return files.place (FileSystem.workPlace ++ [EnvFile.fileName]) (.file c)
  | none => return files

def readStdin : IO (Option String) := do
  let stdin ← IO.getStdin
  if ← stdin.isTty then return none else return some (← stdin.readToEnd)

/-- The path of a place, from the working directory for places in it. -/
def pathOf (place : Place) : Path :=
  if FileSystem.workPlace.isPrefixOf place then ⟨0, place.drop FileSystem.workPlace.length⟩
  else ⟨1, place⟩

def writeChanges (before after : FileSystem) : IO Unit :=
  after.entries.forM fun e => do
    if before.entries.contains e then return
    match e with
    | (place, .directory) => IO.FS.createDirAll (pathOf place).text
    | (place, .file c) => IO.FS.writeBinFile (pathOf place).text ⟨c.octets.toArray⟩

/-- Runs the command and does to the files and the streams what the run did to its machine. -/
def run (words : List String) : IO UInt32 := do
  let files ← readFiles words
  let machine : Machine :=
    { files, env := ← readVariables, stdin := ← readStdin,
      rasterizer := { outcome := .missing } }
  let (ending, after) := Cli.main words machine
  writeChanges files after.files
  (← IO.getStdout).putStr after.stdout
  if ending = .code 2 then (← IO.getStderr).putStr Cli.usage
  (← IO.getStderr).putStr after.stderr
  match ending with
  | .code n => return n.toUInt32
  | .failed e =>
    IO.eprintln e.message
    return 1

end FlowBoard.Program

def main (words : List String) : IO UInt32 := FlowBoard.Program.run words
