import FlowBoard.Machine.Basic
import FlowBoard.Source.Basic
import FlowBoard.Source.FileKey

/-!
# Local sources

A document from a file or from standard input.
-/

namespace FlowBoard.Source

def missingPath : Failure :=
  ⟨.source, "Missing input file path. Provide <input> when using --source file."⟩

def interactiveStdin : Failure :=
  ⟨.source, "No stdin input detected. Pipe JSON or XML into stdin when using --source stdin."⟩

/-- Errors of the system and of decoding are failures of the source. -/
def unreadable (label : String) (e : Failure) : Failure :=
  match e.kind with
  | .fileSystem _ | .undecodable => ⟨.source, "Failed to read " ++ label ++ ": " ++ e.message⟩
  | _ => e

def readInput (label : String) (path : Path) : Run String := do
  match ← Run.attempt (Run.readText path) with
  | .ok text => return text
  | .error e => throw (unreadable label e)

def ingestFile (request : SourceRequest) : Run Ingested := do
  let input := Text.trim request.input
  if input.isEmpty then throw missingPath
  let text ← readInput ("input file \"" ++ input ++ "\"") (Path.ofString input)
  Run.ofExcept
    (ingestText text ("file \"" ++ input ++ "\"") (FileKey.ofPath input) request.hint)

def ingestStdin (request : SourceRequest) : Run Ingested := do
  let text ← Run.readStdin interactiveStdin
  Run.ofExcept (ingestText text "stdin" "stdin" request.hint)

end FlowBoard.Source
