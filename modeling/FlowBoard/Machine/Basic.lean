import FlowBoard.Http.Message
import FlowBoard.Machine.FileSystem

/-!
# The machine

All that a run reads and changes: files, environment, standard input, the replies still to come,
and what was written, requested and started so far. A run is a step from one machine to the next
that may end in a failure; what happened before a failure stays.
-/

namespace FlowBoard

/-- What the rasterizer does when it is started: it ends with texts or with octets that are none, or
it cannot be started, for want of the program or by another fault of the system, or takes too
long. -/
inductive RasterOutcome
  | exits (code : Int) (stdout stderr : String)
  | garbled (code : Int) (error : Text.Utf8Error)
  | missing
  | refused (code : Nat) (message : String)
  | timesOut
deriving DecidableEq, Repr

/-- The rasterizer; it may delete the file that it is given. -/
structure Rasterizer where
  outcome : RasterOutcome := .exits 0 "" ""
  eatsInput : Bool := false
deriving DecidableEq, Repr

/-- What stops the writing of a temporary file before it is recorded, such as a full disk or a stack
that a deep value uses up. Other faults of the system at these files are not modelled. -/
structure SystemFault where
  name : String
  message : String
deriving DecidableEq, Repr

def SystemFault.failure (fault : SystemFault) : Failure := ⟨.foreign fault.name, fault.message⟩

/-- A start of the rasterizer with the texts of the files it was given. -/
structure RasterCall where
  command : List String
  input : String
  config : Option String
  timeout : Number

structure Machine where
  files : FileSystem := {}
  env : Keyed String String := []
  stdin : Option String := none
  replies : List Http.Reply := []
  rasterizer : Rasterizer := {}
  tempFaults : Keyed String SystemFault := []
  stdout : String := ""
  stderr : String := ""
  requests : List Http.Request := []
  calls : List RasterCall := []
  temps : Keyed String String := []

abbrev Run (α : Type) := ExceptT Failure (StateM Machine) α

namespace Run

/-- The result of a run, which does not end it when it is a failure. -/
def attempt (r : Run α) : Run (Except Failure α) := fun m =>
  let (result, m) := r m
  (.ok result, m)

def ofExcept (e : Except Failure α) : Run α := fun m => (e, m)

def print (s : String) : Run Unit := modify fun m => { m with stdout := m.stdout ++ s }

/-- Prints a string if it can be coded. -/
def printCoded (lone : Text.StandIns) (s : String) : Run Unit := do
  print (← ofExcept (lone.coded s))

/-- Writes a line for the user. -/
def note (line : String) : Run Unit := modify fun m => { m with stderr := m.stderr ++ line ++ "\n" }

def readText (path : Path) : Run String := do
  ofExcept ((← get).files.readText path)

/-- Writes a file, with the directories above it. -/
def writeText (path : Path) (s : String) : Run Unit := do
  let files ← ofExcept ((← get).files.makeDirectories path.parent)
  modify fun m => { m with files }
  let files ← ofExcept (files.writeText path s)
  modify fun m => { m with files }

/-- Writes a string that may have no code; then the file is there, and is empty. -/
def writeCoded (lone : Text.StandIns) (path : Path) (s : String) : Run Unit :=
  match lone.coded s with
  | .ok s => writeText path s
  | .error e => do
    writeText path ""
    throw e

/-- What a request comes to when no reply is left: nothing can be reached. -/
def unanswered : Http.Reply := .failed (.transport "ConnectError") "no reply"

/-- Sends a request and takes the next reply. -/
def send (request : Http.Request) : Run Http.Reply := do
  ofExcept request.check
  modify fun m => { m with requests := m.requests ++ [request] }
  match (← get).replies with
  | [] => return unanswered
  | reply :: rest =>
    modify fun m => { m with replies := rest }
    return reply

/-- Standard input to its end; `interactive` is the failure when it is a terminal. -/
def readStdin (interactive : Failure) : Run String := do
  match (← get).stdin with
  | none => throw interactive
  | some s => return String.ofList (Text.unifyNewlines s.toList)

end Run

end FlowBoard
